/-
This file repeats scaling and scoring in a careful form, which has no result if a pixel or an entry
of a table is missing or if a number leaves its word. Where a score is asked for inside the scene
the careful form has the same result as the plain one, so that nothing outside is ever read.
-/

import Mathlib
import DeskScript.Picture.Search

namespace DeskScript.Picture

/-! ### Careful steps -/

/-- Numbers of pixels have to fit into 32 bits. -/
def word? (value : Nat) : Option Nat := if value < 2 ^ 32 then some value else none

theorem wordSmall {value : Nat} (small : value < 2 ^ 32) : word? value = some value := if_pos small

section

variable {item : Type}

/-- The items are put together from the first to the last, unless one of them is missing. -/
def collect? (count : Nat) (item? : Nat → Option item) : Option (Array item) :=
  match count with
  | 0 => some #[]
  | count + 1 => do
      let items ← collect? count item?
      let last ← item? count
      return items.push last

theorem collectAll {count : Nat} {item? : Nat → Option item} {whole : Nat → item}
    (given : ∀ index < count, item? index = some (whole index)) :
    collect? count item? = some ((Array.range count).map whole) := by
  induction count with
  | zero => simp [collect?]
  | succ count inductionHypothesis =>
      rw [collect?, inductionHypothesis fun index below => given index (by omega),
        given count (by omega)]
      simp [Array.range_succ]

variable {scalar : Type} [Scalar scalar]

/-- The terms are added from the first to the last, unless one of them is missing. -/
def sumOf? (count : Nat) (term? : Nat → Option scalar) : Option scalar :=
  match count with
  | 0 => some (Scalar.ofNat 0)
  | count + 1 => do
      let total ← sumOf? count term?
      let last ← term? count
      return total + last

theorem sumAll {count : Nat} {term? : Nat → Option scalar} {term : Nat → scalar}
    (given : ∀ index < count, term? index = some (term index)) :
    sumOf? count term? = some (Scalar.sumOf count term) := by
  induction count with
  | zero => rfl
  | succ count inductionHypothesis =>
      rw [sumOf?, inductionHypothesis fun index below => given index (by omega),
        given count (by omega), Scalar.sumOfSucc]
      rfl

end

/-! ### Pixels -/

/-- A pixel can be read where both its coordinates are inside the picture. -/
def brightness? (picture : Picture) (x y : Nat) : Option UInt8 :=
  if x < picture.width ∧ y < picture.height then picture.pixels[y * picture.width + x]? else none

theorem pixelInside (picture : Picture) {index : Nat}
    (inside : index < picture.width * picture.height) :
    picture.pixels[index]? = some (picture.pixels.getD index 0) := by
  rw [← picture.complete] at inside
  simp [inside]

theorem brightnessInside (picture : Picture) {x y : Nat} (insideX : x < picture.width)
    (insideY : y < picture.height) : picture.brightness? x y = some (picture.brightness x y) := by
  rw [brightness?, if_pos ⟨insideX, insideY⟩]
  exact picture.pixelInside (positionBelow picture.width picture.height x y insideX insideY)

def generate? (width height : Nat) (pixel? : Nat → Nat → Option UInt8) : Option Picture := do
  let pixels ← collect? (width * height) fun index => pixel? (index % width) (index / width)
  if complete : pixels.size = width * height then some ⟨width, height, pixels, complete⟩ else none

theorem generateAll {width height : Nat} {pixel? : Nat → Nat → Option UInt8}
    {pixel : Nat → Nat → UInt8}
    (given : ∀ x < width, ∀ y < height, pixel? x y = some (pixel x y)) :
    generate? width height pixel? = some (generate width height pixel) := by
  have all : ∀ index < width * height, pixel? (index % width) (index / width) =
      some (pixel (index % width) (index / width)) := fun index below =>
    given _ (Nat.mod_lt _ (Nat.pos_of_mul_pos_right (Nat.zero_lt_of_lt below))) _
      (Nat.div_lt_of_lt_mul below)
  have complete : ((Array.range (width * height)).map fun index =>
      pixel (index % width) (index / width)).size = width * height := by simp
  have pixels : ((Array.range (width * height)).map fun index =>
      pixel (index % width) (index / width)) = (generate width height pixel).pixels := by
    refine Array.ext (complete.trans (generate width height pixel).complete.symm) ?_
    intro index inRange inGenerated
    simp [generate]
  rw [generate?, collectAll all]
  show (if complete : _ then _ else none) = _
  rw [dif_pos complete]
  exact congrArg some (by simp only [pixels]; rfl)

/-! ### Scaling -/

section

variable {scalar : Type} [Scalar scalar]

/-- A window never goes beyond the side that it is a part of. -/
theorem windowWithin {side : Nat} (positive : 0 < side) (scaled position : Nat) :
    (windowAt side scaled position : Window scalar).first +
      (windowAt side scaled position : Window scalar).shares.size ≤ side := by
  simp only [windowAt, Array.size_map, Array.size_range]
  omega

def Window.blend? (window : Window scalar) (value? : Nat → Option scalar) : Option scalar :=
  sumOf? window.shares.size fun index => do
    let value ← value? (window.first + index)
    let share ← window.shares[index]?
    return value * share

theorem blendInside {side scaled position : Nat} (positive : 0 < side)
    {value? : Nat → Option scalar} {value : Nat → scalar}
    (given : ∀ index < side, value? index = some (value index)) :
    (windowAt side scaled position).blend? value? =
      some ((windowAt side scaled position).blend value) := by
  have within : (windowAt side scaled position : Window scalar).first + _ ≤ side :=
    windowWithin positive scaled position
  generalize (windowAt side scaled position : Window scalar) = window at within ⊢
  refine sumAll fun index below => ?_
  rw [given _ (by omega)]
  simp [below]

def scaledColumns? (picture : Picture) (height : Nat) : Option (Array (Array scalar)) :=
  collect? height fun row =>
    let window : Window scalar := windowAt picture.height height row
    collect? picture.width fun column => window.blend? fun y =>
      (picture.brightness? column y).map fun brightness => Scalar.ofNat brightness.toNat

theorem columnsInside (picture : Picture) (height : Nat) (positive : 0 < picture.height) :
    picture.scaledColumns? height = some (picture.scaledColumns height : Array (Array scalar)) := by
  refine collectAll fun row below => ?_
  refine collectAll fun column insideX => ?_
  refine blendInside positive fun y insideY => ?_
  rw [picture.brightnessInside insideX insideY]
  rfl

def scale? (scalar : Type) [Scalar scalar] (picture : Picture) (width height : Nat) :
    Option Picture :=
  if picture.width = width ∧ picture.height = height then some picture
  else do
    let rows : Array (Array scalar) ← picture.scaledColumns? height
    generate? width height fun column row => do
      let values ← rows[row]?
      let value ← (windowAt picture.width width column).blend? fun x => values[x]?
      return UInt8.ofNat (Scalar.nearest (Scalar.clamp (Scalar.ofNat 0) (Scalar.ofNat 255) value))

theorem scaleInside (picture : Picture) (width height : Nat) (wide : 0 < picture.width)
    (high : 0 < picture.height) :
    picture.scale? scalar width height = some (picture.scale scalar width height) := by
  rw [scale?, scale]
  split
  · rfl
  · rw [columnsInside picture height high, Option.bind_eq_bind, Option.bind_some]
    refine generateAll fun column insideX row insideY => ?_
    have values : (picture.scaledColumns height : Array (Array scalar))[row]? =
        some ((picture.scaledColumns height).getD row #[]) := by
      simp [scaledColumns, insideY]
    have complete : ((picture.scaledColumns height : Array (Array scalar)).getD row #[]).size =
        picture.width := by
      simp [scaledColumns, insideY]
    have window : ((Array.range width).map fun column =>
        (windowAt picture.width width column : Window scalar)).getD column ⟨0, #[]⟩ =
          windowAt picture.width width column := by
      simp [insideX]
    generalize (picture.scaledColumns height : Array (Array scalar)).getD row #[] = shades
      at values complete ⊢
    have blended : (windowAt picture.width width column).blend? (fun x => shades[x]?) =
        some ((windowAt picture.width width column).blend
          fun x => shades.getD x (Scalar.ofNat 0 : scalar)) :=
      blendInside wide fun x below => by
        rw [← complete] at below
        simp [below]
    rw [values, window, Option.bind_eq_bind, Option.bind_some, blended]
    rfl

/-! ### Sum tables -/

/-- The next row of a table up to a column, and the sum of the pixels that it has passed. -/
def sumsUntil? (above : Array scalar) (value? : Nat → Option scalar) (column : Nat) :
    Option (Array scalar × scalar) :=
  match column with
  | 0 => some (#[Scalar.ofNat 0], Scalar.ofNat 0)
  | column + 1 => do
      let (sums, running) ← sumsUntil? above value? column
      let value ← value? column
      let upper ← above[column + 1]?
      return (sums.push (upper + (running + value)), running + value)

theorem nextSumsFold (width : Nat) (above : Array scalar) (value : Nat → scalar) :
    width.fold (fun x _ (state : Array scalar × scalar) =>
        (state.1.push (above.getD (x + 1) (Scalar.ofNat 0) + (state.2 + value x)),
          state.2 + value x)) (#[Scalar.ofNat 0], Scalar.ofNat 0) =
      (nextSums width above value, Scalar.sumOf width value) := by
  refine Prod.ext rfl ?_
  induction width with
  | zero => rfl
  | succ width inductionHypothesis =>
      rw [Nat.fold_succ, Scalar.sumOfSucc]
      exact congrArg (· + value width) inductionHypothesis

/-- The last entry of a row is the entry above and the sum of the whole row of pixels. -/
theorem nextSumsSucc (width : Nat) (above : Array scalar) (value : Nat → scalar) :
    nextSums (width + 1) above value = (nextSums width above value).push
      (above.getD (width + 1) (Scalar.ofNat 0) + Scalar.sumOf (width + 1) value) := by
  have states := congrArg Prod.fst (nextSumsFold (width + 1) above value)
  rw [Nat.fold_succ, nextSumsFold] at states
  rw [Scalar.sumOfSucc]
  exact states.symm

theorem nextSumsSize (width : Nat) (above : Array scalar) (value : Nat → scalar) :
    (nextSums width above value).size = width + 1 := by
  induction width with
  | zero => rfl
  | succ width inductionHypothesis => rw [nextSumsSucc, Array.size_push, inductionHypothesis]

theorem sumsInside {width : Nat} {above : Array scalar} (complete : above.size = width + 1)
    {value? : Nat → Option scalar} {value : Nat → scalar}
    (given : ∀ x < width, value? x = some (value x)) {column : Nat} (inside : column ≤ width) :
    sumsUntil? above value? column =
      some (nextSums column above value, Scalar.sumOf column value) := by
  induction column with
  | zero => rfl
  | succ column inductionHypothesis =>
      have upper : above[column + 1]? = some (above.getD (column + 1) (Scalar.ofNat 0)) := by
        have below : column + 1 < above.size := by omega
        simp [below]
      rw [sumsUntil?, inductionHypothesis (by omega), given column (by omega), upper,
        nextSumsSucc, Scalar.sumOfSucc]
      rfl

/-- These are the rows of a sum table from the top. -/
def sumRow (picture : Picture) (value : UInt8 → scalar) : Nat → Array scalar
  | 0 => Array.replicate (picture.width + 1) (Scalar.ofNat 0)
  | y + 1 => nextSums picture.width (picture.sumRow value y) fun x => value (picture.brightness x y)

theorem sumRowSize (picture : Picture) (value : UInt8 → scalar) (y : Nat) :
    (picture.sumRow value y).size = picture.width + 1 := by
  cases y with
  | zero => exact Array.size_replicate
  | succ y => exact nextSumsSize _ _ _

theorem rangeOne : Array.range 1 = #[0] := by decide

theorem sumTableRows (picture : Picture) (value : UInt8 → scalar) :
    picture.sumTable value = (Array.range (picture.height + 1)).map (picture.sumRow value) := by
  have states (count : Nat) : count.fold (fun y _ (state : SumTable scalar × Array scalar) =>
      (state.1.push (nextSums picture.width state.2 fun x => value (picture.brightness x y)),
        nextSums picture.width state.2 fun x => value (picture.brightness x y)))
      (#[Array.replicate (picture.width + 1) (Scalar.ofNat 0)],
        Array.replicate (picture.width + 1) (Scalar.ofNat 0)) =
      ((Array.range (count + 1)).map (picture.sumRow value), picture.sumRow value count) := by
    induction count with
    | zero => simp [sumRow, rangeOne]
    | succ count inductionHypothesis =>
        rw [Nat.fold_succ, inductionHypothesis]
        simp [sumRow, Array.range_succ (n := count + 1)]
  exact congrArg Prod.fst (states picture.height)

def rowsUntil? (picture : Picture) (value : UInt8 → scalar) (row : Nat) :
    Option (SumTable scalar × Array scalar) :=
  match row with
  | 0 =>
      let blank := Array.replicate (picture.width + 1) (Scalar.ofNat 0)
      some (#[blank], blank)
  | row + 1 => do
      let (rows, above) ← picture.rowsUntil? value row
      let (sums, _) ← sumsUntil? above (fun x => (picture.brightness? x row).map value)
        picture.width
      return (rows.push sums, sums)

def sumTable? (picture : Picture) (value : UInt8 → scalar) : Option (SumTable scalar) :=
  (picture.rowsUntil? value picture.height).map Prod.fst

theorem tableInside (picture : Picture) (value : UInt8 → scalar) :
    picture.sumTable? value = some (picture.sumTable value) := by
  have rows (row : Nat) (inside : row ≤ picture.height) : picture.rowsUntil? value row =
      some ((Array.range (row + 1)).map (picture.sumRow value), picture.sumRow value row) := by
    induction row with
    | zero => simp [rowsUntil?, sumRow, rangeOne]
    | succ row inductionHypothesis =>
        have given : ∀ x < picture.width, (picture.brightness? x row).map value =
            some (value (picture.brightness x row)) := by
          intro x insideX
          rw [picture.brightnessInside insideX inside]
          rfl
        rw [rowsUntil?, inductionHypothesis (by omega), Option.bind_eq_bind, Option.bind_some]
        dsimp only
        rw [sumsInside (picture.sumRowSize value row) given le_rfl]
        simp [sumRow, Array.range_succ (n := row + 1)]
  rw [sumTable?, rows picture.height le_rfl, sumTableRows]
  rfl

/-- An entry is read from a row that is there and at a column of the row. -/
def SumTable.cell? (table : SumTable scalar) (x y : Nat) : Option scalar := do
  let row ← table[y]?
  row[x]?

def SumTable.window? (table : SumTable scalar) (x y width height : Nat) : Option scalar := do
  let whole ← table.cell? (x + width) (y + height)
  let above ← table.cell? (x + width) y
  let before ← table.cell? x (y + height)
  let corner ← table.cell? x y
  return whole - above - before + corner

theorem cellInside (picture : Picture) (value : UInt8 → scalar) {x y : Nat}
    (insideX : x ≤ picture.width) (insideY : y ≤ picture.height) :
    (picture.sumTable value).cell? x y = some ((picture.sumTable value).entry x y) := by
  have row : (picture.sumTable value)[y]? = some (picture.sumRow value y) := by
    rw [sumTableRows]
    simp [Nat.lt_succ_of_le insideY]
  have column : x < (picture.sumRow value y).size := by
    rw [sumRowSize]
    omega
  have rowOf : (picture.sumTable value).getD y #[] = picture.sumRow value y := by
    rw [Array.getD_eq_getD_getElem?, row]
    rfl
  rw [SumTable.cell?, SumTable.entry, row, rowOf]
  simp [column]

theorem windowInside (picture : Picture) (value : UInt8 → scalar) {x y width height : Nat}
    (insideX : x + width ≤ picture.width) (insideY : y + height ≤ picture.height) :
    (picture.sumTable value).window? x y width height =
      some ((picture.sumTable value).window x y width height) := by
  rw [SumTable.window?, picture.cellInside value insideX insideY,
    picture.cellInside value insideX (by omega), picture.cellInside value (by omega) insideY,
    picture.cellInside value (by omega) (by omega)]
  rfl

/-! ### Scoring -/

namespace Correlation

def of? (scene picture : Picture) : Option (Correlation scalar) := do
  let count ← word? (picture.width * picture.height)
  let sums ← scene.sumTable? level
  let squares ← scene.sumTable? fun brightness => level brightness * level brightness
  let total ← sumOf? count fun index => (picture.pixels[index]?).map level
  let mean := total / Scalar.ofNat count
  let deviations ← collect? count fun index =>
    (picture.pixels[index]?).map fun brightness => level brightness - mean
  let square ← sumOf? count fun index =>
    (deviations[index]?).map fun deviation => deviation * deviation
  return {
    scene, sums, squares, width := picture.width, height := picture.height, deviations, mean,
    norm := Scalar.sqrt square }

theorem ofInside (scene picture : Picture) (small : picture.width * picture.height < 2 ^ 32) :
    of? scene picture = some (of scene picture : Correlation scalar) := by
  have count := picture.complete
  have total : sumOf? (picture.width * picture.height)
      (fun index => (picture.pixels[index]?).map (level : UInt8 → scalar)) =
        some (Scalar.sumOf (picture.width * picture.height)
          fun index => level (picture.pixels.getD index 0)) :=
    sumAll fun index below => by rw [picture.pixelInside below]; rfl
  have deviations (mean : scalar) : collect? (picture.width * picture.height)
      (fun index => (picture.pixels[index]?).map fun brightness => level brightness - mean) =
        some ((Array.range (picture.width * picture.height)).map
          fun index => level (picture.pixels.getD index 0) - mean) :=
    collectAll fun index below => by rw [picture.pixelInside below]; rfl
  have square (deviations : Array scalar)
      (complete : deviations.size = picture.width * picture.height) :
      sumOf? (picture.width * picture.height)
        (fun index => (deviations[index]?).map fun deviation => deviation * deviation) =
          some (Scalar.sumOf (picture.width * picture.height) fun index =>
            deviations.getD index (Scalar.ofNat 0) * deviations.getD index (Scalar.ofNat 0)) :=
    sumAll fun index below => by simp [complete, below]
  rw [of?, of, wordSmall small, count]
  simp only [Option.bind_eq_bind, Option.bind_some, tableInside, total, deviations]
  rw [square _ (by simp)]
  rfl

def cross? (correlation : Correlation scalar) (x y : Nat) : Option scalar := do
  let width := correlation.width
  sumOf? (width * correlation.height) fun index => do
    let column ← word? (x + index % width)
    let row ← word? (y + index / width)
    let brightness ← correlation.scene.brightness? column row
    let deviation ← correlation.deviations[index]?
    return level brightness * deviation

def variance? (correlation : Correlation scalar) (x y : Nat) : Option scalar := do
  let area ← word? (correlation.width * correlation.height)
  let sum ← correlation.sums.window? x y correlation.width correlation.height
  let squares ← correlation.squares.window? x y correlation.width correlation.height
  return Scalar.larger (Scalar.ofNat 0) (squares - sum * sum / Scalar.ofNat area)

/-- The score is told from what has been read, in the same way as in the plain form. -/
def score? (correlation : Correlation scalar) (x y : Nat) : Option scalar := do
  let zero : scalar := Scalar.ofNat 0
  let one : scalar := Scalar.ofNat 1
  let area ← word? (correlation.width * correlation.height)
  let count : scalar := Scalar.ofNat area
  let variance ← correlation.variance? x y
  let isFlat := Scalar.exceeds (leastVariance * count) variance
  if Scalar.exceeds leastVariance correlation.norm then
    if isFlat then
      let sum ← correlation.sums.window? x y correlation.width correlation.height
      let apart := Scalar.distance (sum / count) correlation.mean
      return Scalar.clamp zero one (one - apart / Scalar.ofNat 255)
    else return zero
  else if isFlat then return zero
  else
    let cross ← correlation.cross? x y
    return Scalar.clamp zero one (cross / (Scalar.sqrt variance * correlation.norm))

theorem crossInside (scene picture : Picture) (wide : scene.width < 2 ^ 32)
    (high : scene.height < 2 ^ 32) {x y : Nat} (insideX : x + picture.width ≤ scene.width)
    (insideY : y + picture.height ≤ scene.height) :
    (of scene picture : Correlation scalar).cross? x y = some ((of scene picture).cross x y) := by
  refine sumAll fun index below => ?_
  have isIndex : index < picture.width * picture.height := below
  have column : index % picture.width < picture.width :=
    Nat.mod_lt _ (Nat.pos_of_mul_pos_right (Nat.zero_lt_of_lt isIndex))
  have row : index / picture.width < picture.height := Nat.div_lt_of_lt_mul isIndex
  have deviation : (of scene picture : Correlation scalar).deviations[index]? =
      some ((of scene picture : Correlation scalar).deviations.getD index (Scalar.ofNat 0)) := by
    have inRange : index < (of scene picture : Correlation scalar).deviations.size := by
      simpa [of, picture.complete] using isIndex
    simp [inRange]
  show (do
    let column ← word? (x + index % picture.width)
    let row ← word? (y + index / picture.width)
    let brightness ← scene.brightness? column row
    let deviation ← (of scene picture : Correlation scalar).deviations[index]?
    return level brightness * deviation) = _
  simp only [wordSmall (show x + index % picture.width < 2 ^ 32 by omega),
    wordSmall (show y + index / picture.width < 2 ^ 32 by omega), Option.bind_eq_bind,
    Option.bind_some, deviation,
    scene.brightnessInside (show x + index % picture.width < scene.width by omega)
      (show y + index / picture.width < scene.height by omega)]
  rfl

/-- Where the picture fits into the scene its score is told from what is there. -/
theorem scoreInside (scene picture : Picture) (wide : scene.width < 2 ^ 32)
    (high : scene.height < 2 ^ 32) (small : picture.width * picture.height < 2 ^ 32) {x y : Nat}
    (insideX : x + picture.width ≤ scene.width) (insideY : y + picture.height ≤ scene.height) :
    (of scene picture : Correlation scalar).score? x y = some ((of scene picture).score x y) := by
  have area : word? ((of scene picture : Correlation scalar).width *
      (of scene picture : Correlation scalar).height) = some _ := wordSmall small
  have sums : (of scene picture : Correlation scalar).sums.window? x y
      (of scene picture : Correlation scalar).width
      (of scene picture : Correlation scalar).height =
        some ((of scene picture).sums.window x y _ _) :=
    scene.windowInside level insideX insideY
  have squares : (of scene picture : Correlation scalar).squares.window? x y
      (of scene picture : Correlation scalar).width
      (of scene picture : Correlation scalar).height =
        some ((of scene picture).squares.window x y _ _) :=
    scene.windowInside (fun brightness => level brightness * level brightness) insideX insideY
  have cross : (of scene picture : Correlation scalar).cross? x y = _ :=
    crossInside scene picture wide high insideX insideY
  generalize (of scene picture : Correlation scalar) = correlation at area sums squares cross ⊢
  have variance : correlation.variance? x y = some (correlation.variance x y) := by
    rw [variance?, area, sums, squares]
    rfl
  simp only [score?, area, variance, sums, cross, Option.bind_eq_bind, Option.bind_some]
  rw [score]
  dsimp only
  split
  · rw [apply_ite some]
    rfl
  · rw [apply_ite some]
    rfl

end Correlation

end

end DeskScript.Picture
