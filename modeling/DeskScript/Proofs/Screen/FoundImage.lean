/-
This file shows where images are found on the screen. The rectangle that two rectangles have in
common holds exactly the positions that lie in both, and its numbers are those that were computed,
although edges may lie beyond the range of coordinates. The part of a region that is searched is
what it has in common with the screen. A match lies inside both, and has the score of the whole
screen at its place. Nothing is found in a region off the screen.
-/

import Mathlib
import DeskScript.Geometry
import DeskScript.Proofs.Match.Ranking
import DeskScript.Proofs.Picture.RoughSearch
import DeskScript.Proofs.Run.ClickPlace
import DeskScript.Screen.Finder

namespace DeskScript

namespace Rect

variable {first second common : Rect}

theorem containsIff {rect : Rect} {point : Point} : rect.contains point = true ↔
    (rect.left ≤ point.x.toInt ∧ point.x.toInt < rect.right) ∧
      rect.top ≤ point.y.toInt ∧ point.y.toInt < rect.bottom := by
  simp [contains, and_assoc]

/-! ### Edges -/

/-- The common part of two rectangles is not empty and has the inner ones of their edges. -/
structure CommonPart (first second common : Rect) : Prop where
  left : common.left = max first.left second.left
  top : common.top = max first.top second.top
  right : common.right = min first.right second.right
  bottom : common.bottom = min first.bottom second.bottom
  wide : common.left < common.right
  high : common.top < common.bottom

/-- The edges of a rectangle that is cut to a side of it can be given by a start and a length. -/
theorem cutSide (start : Int32) (length : UInt32) {low high : Int} (least : start.toInt ≤ low)
    (most : high ≤ start.toInt + length.toNat) (some : low < high) (fits : low < 2 ^ 31) :
    (Int32.ofInt low).toInt = low ∧
      (Int32.ofInt low).toInt + (UInt32.ofNat (high - low).toNat).toNat = high := by
  have leastStart := start.le_toInt
  have lengthBelow := length.toNat_lt
  have small : (high - low).toNat < 2 ^ 32 := by omega
  rw [Int32.toInt_ofInt_of_le (by omega) fits, UInt32.toNat_ofNat_of_lt' small]
  omega

theorem commonPart (meets : first.intersection second = some common) :
    CommonPart first second common := by
  rw [intersection] at meets
  split at meets
  · cases meets
  · next some =>
      push Not at some
      obtain ⟨across, down⟩ := some
      have firstX := first.x.toInt_lt
      have firstY := first.y.toInt_lt
      have secondX := second.x.toInt_lt
      have secondY := second.y.toInt_lt
      obtain ⟨left, right⟩ := cutSide first.x first.width (le_max_left _ second.left)
        (min_le_left _ second.right) across (max_lt firstX secondX)
      obtain ⟨top, bottom⟩ := cutSide first.y first.height (le_max_left _ second.top)
        (min_le_left _ second.bottom) down (max_lt firstY secondY)
      cases meets
      exact ⟨left, top, right, bottom, (left.trans_lt across).trans_eq right.symm,
        (top.trans_lt down).trans_eq bottom.symm⟩

/-! ### Positions -/

/-- The upper left corner of a common part is a position in it. -/
theorem CommonPart.corner (part : CommonPart first second common) :
    common.contains ⟨common.x, common.y⟩ = true :=
  containsIff.mpr ⟨⟨le_rfl, part.wide⟩, le_rfl, part.high⟩

theorem CommonPart.containsBoth (part : CommonPart first second common) (point : Point) :
    common.contains point = true ↔
      first.contains point = true ∧ second.contains point = true := by
  simp only [containsIff, part.left, part.top, part.right, part.bottom, max_le_iff, lt_min_iff]
  tauto

/-- Two rectangles have no common part exactly if no position lies in both. -/
theorem apartIff : first.intersection second = none ↔
    ∀ point, ¬(first.contains point = true ∧ second.contains point = true) := by
  constructor
  · rintro apart point ⟨inFirst, inSecond⟩
    rw [containsIff] at inFirst inSecond
    rw [intersection, if_neg (by omega)] at apart
    cases apart
  · intro apart
    by_contra meets
    obtain ⟨common, meets⟩ := Option.ne_none_iff_exists'.mp meets
    have part := commonPart meets
    exact apart _ ((part.containsBoth _).mp part.corner)

/-! ### Intersections -/

theorem intersectionComm (first second : Rect) :
    first.intersection second = second.intersection first := by
  rw [intersection, intersection, max_comm first.left, max_comm first.top, min_comm first.right,
    min_comm first.bottom]

/--
A rectangle is the intersection of two rectangles if it holds the positions that lie in both. It has
positive sides, and its numbers are those that were computed without any bound.
-/
structure IsIntersection (first second common : Rect) : Prop where
  x : common.x.toInt = max first.left second.left
  y : common.y.toInt = max first.top second.top
  width : (common.width.toNat : Int) =
    min first.right second.right - max first.left second.left
  height : (common.height.toNat : Int) =
    min first.bottom second.bottom - max first.top second.top
  wide : 0 < common.width
  high : 0 < common.height
  positions : ∀ point, common.contains point = true ↔
    first.contains point = true ∧ second.contains point = true

theorem CommonPart.isIntersection (part : CommonPart first second common) :
    IsIntersection first second common := by
  have positions := part.containsBoth
  obtain ⟨left, top, right, bottom, wide, high⟩ := part
  rw [Rect.left] at left wide
  rw [Rect.top] at top high
  rw [Rect.right, Rect.left] at right wide
  rw [Rect.bottom, Rect.top] at bottom high
  refine ⟨left, top, by omega, by omega, ?_, ?_, positions⟩
  · rw [UInt32.lt_iff_toNat_lt]
    show 0 < common.width.toNat
    omega
  · rw [UInt32.lt_iff_toNat_lt]
    show 0 < common.height.toNat
    omega

/--
Two rectangles have no intersection exactly if no position lies in both. Otherwise the intersection
holds the positions that lie in both, and it does not matter which rectangle comes first.
-/
theorem intersectionExact (first second : Rect) :
    (first.intersection second = none ↔
      ∀ point, ¬(first.contains point = true ∧ second.contains point = true)) ∧
    (∀ common, first.intersection second = some common → IsIntersection first second common) ∧
    first.intersection second = second.intersection first :=
  ⟨apartIff, fun _ meets => (commonPart meets).isIntersection, intersectionComm first second⟩

/-- This rectangle starts at the first coordinates and is as large as a rectangle can be. -/
def largest : Rect := ⟨-2147483648, -2147483648, 4294967295, 4294967295⟩

/-- This rectangle starts next to the last coordinates, and most of it lies beyond them. -/
def farCorner : Rect := ⟨2147483646, 2147483646, 4294967295, 4294967295⟩

/-- Two rectangles with as large sides as possible may have a single pixel in common. -/
theorem intersectionExactCorner :
    largest.intersection farCorner = some ⟨2147483646, 2147483646, 1, 1⟩ ∧
      IsIntersection largest farCorner ⟨2147483646, 2147483646, 1, 1⟩ := by
  have meets : largest.intersection farCorner = some ⟨2147483646, 2147483646, 1, 1⟩ := by decide
  exact ⟨meets, (intersectionExact largest farCorner).2.1 _ meets⟩

end Rect

/-! ### Places on the screen -/

theorem saturatingExact {first second : Int32} (low : -2 ^ 31 ≤ first.toInt + second.toInt)
    (high : first.toInt + second.toInt < 2 ^ 31) :
    (saturatingAdd first second).toInt = first.toInt + second.toInt := by
  rw [saturatingAdd, if_neg low.not_gt, if_neg (by omega), Int32.toInt_ofInt_of_le low high]

/-! ### Best matches -/

namespace Match

/-- A match of greater confidence has a lower rank, and so has the nearer one of equal ones. -/
noncomputable def exactRank (anchor : Point) (found : Match ℝ) : ℝᵒᵈ ×ₗ Int :=
  toLex (OrderDual.toDual found.confidence, (found.center.distanceSquared anchor).toInt)

variable {anchor : Point}

/-- Matches with exact confidences are compared by their ranks. -/
theorem exactRankLT (first second : Match ℝ) : first.betterThan anchor second = true ↔
    first.exactRank anchor < second.exactRank anchor :=
  betterThanLex (Scalar.exceedsReal _ _) (Scalar.exceedsReal _ _) Int64.lt_iff_toInt_lt

/--
The match that is chosen is one of the candidates and qualifies. No other one that qualifies is of
greater confidence, and no equal one is nearer.
-/
structure IsExactBest (threshold : ℝ) (anchor : Point) (candidates : List (Match ℝ))
    (best : Match ℝ) : Prop where
  candidate : best ∈ candidates
  qualifies : threshold ≤ best.confidence
  greatest : ∀ other ∈ candidates, other.confidence ≤ best.confidence
  nearest : ∀ other ∈ candidates, other.confidence = best.confidence →
    (best.center.distanceSquared anchor).toInt ≤ (other.center.distanceSquared anchor).toInt

theorem exactBest {threshold : ℝ} {candidates : List (Match ℝ)} {best : Match ℝ}
    (chosen : best? threshold anchor candidates = some best) :
    IsExactBest threshold anchor candidates best := by
  rw [best?, foldLeast _ fun first _ second _ => exactRankLT first second] at chosen
  obtain ⟨candidate, qualified⟩ := List.mem_filter.mp (List.argmin_mem chosen)
  have enough : threshold ≤ best.confidence := of_decide_eq_true qualified
  have least (other : Match ℝ) (inside : other ∈ candidates) (good : threshold ≤ other.confidence) :
      best.exactRank anchor ≤ other.exactRank anchor :=
    List.le_of_mem_argmin (List.mem_filter.mpr ⟨inside, decide_eq_true good⟩) chosen
  refine ⟨candidate, enough, fun other inside => ?_, fun other inside same => ?_⟩
  · rcases le_or_gt threshold other.confidence with good | low
    · exact (Prod.Lex.toLex_le_toLex'.mp (least other inside good)).1
    · exact low.le.trans enough
  · have good : threshold ≤ other.confidence := enough.trans_eq same.symm
    exact (Prod.Lex.toLex_le_toLex'.mp (least other inside good)).2
      (congrArg OrderDual.toDual same.symm)

end Match

namespace Screen

/-! ### Views -/

/-- This is the rectangle of the whole screen. -/
def whole (screen : Picture) : Rect :=
  ⟨0, 0, UInt32.ofNat screen.width, UInt32.ofNat screen.height⟩

theorem wholeEdges (screen : Picture) (wide : screen.width < 2 ^ 32)
    (high : screen.height < 2 ^ 32) :
    (whole screen).left = 0 ∧ (whole screen).top = 0 ∧ (whole screen).right = screen.width ∧
      (whole screen).bottom = screen.height := by
  simp [whole, Rect.left, Rect.top, Rect.right, Rect.bottom, -UInt32.toNat_ofNat',
    Picture.Hit.sideFits wide, Picture.Hit.sideFits high]

/-- The view shows the part of the screen at this position, and all that lies in the region. -/
structure Shows (screen : Picture) (region : Option Rect) (area : View) (left top : Nat) :
    Prop where
  x : area.origin.x.toInt = left
  y : area.origin.y.toInt = top
  picture : area.picture = screen.crop left top area.picture.width area.picture.height
  insideX : left + area.picture.width ≤ screen.width
  insideY : top + area.picture.height ≤ screen.height
  region : ∀ wanted ∈ region,
    (left = max 0 wanted.left ∧ left + area.picture.width = min (screen.width : Int) wanted.right) ∧
    top = max 0 wanted.top ∧ top + area.picture.height = min (screen.height : Int) wanted.bottom

variable {screen image : Picture} {region : Option Rect} {area : View}

/-- What is seen is the common part of the region and the screen. -/
theorem viewShows (wide : screen.width < 2 ^ 32) (high : screen.height < 2 ^ 32)
    (seen : view screen region = some area) : ∃ left top, Shows screen region area left top := by
  cases region with
  | none =>
      cases seen
      exact ⟨0, 0, rfl, rfl, (Picture.cropWhole screen).symm, (Nat.zero_add _).le,
        (Nat.zero_add _).le, nofun⟩
  | some wanted =>
      obtain ⟨visible, meets, rfl⟩ := Option.map_eq_some_iff.mp seen
      obtain ⟨left, top, right, bottom, across, down⟩ : (whole screen).CommonPart wanted visible :=
        Rect.commonPart meets
      obtain ⟨zeroX, zeroY, width, height⟩ := wholeEdges screen wide high
      rw [zeroX, Rect.left] at left
      rw [zeroY, Rect.top] at top
      rw [width, Rect.right, Rect.left] at right
      rw [height, Rect.bottom, Rect.top] at bottom
      have column : 0 ≤ visible.x.toInt := by omega
      have row : 0 ≤ visible.y.toInt := by omega
      refine ⟨visible.x.toInt.toNat, visible.y.toInt.toNat, (Int.toNat_of_nonneg column).symm,
        (Int.toNat_of_nonneg row).symm, rfl, ?_, ?_, ?_⟩
      · change visible.x.toInt.toNat + visible.width.toNat ≤ screen.width
        omega
      · change visible.y.toInt.toNat + visible.height.toNat ≤ screen.height
        omega
      · rintro _ ⟨⟩
        change (_ ∧ (visible.x.toInt.toNat + visible.width.toNat : Int) = _) ∧
          _ ∧ (visible.y.toInt.toNat + visible.height.toNat : Int) = _
        omega

/-- No pixel of the screen lies in the region. -/
def OffScreen (screen : Picture) (wanted : Rect) : Prop :=
  ∀ point, ¬((whole screen).contains point = true ∧ wanted.contains point = true)

theorem unseenIff {wanted : Rect} : view screen (some wanted) = none ↔ OffScreen screen wanted := by
  rw [view, Option.map_eq_none_iff]
  exact Rect.apartIff

/-! ### Places -/

/-- This is the rectangle on the screen that the match of a hit fills. -/
def place (area : View) (image : Picture) (hit : Picture.Hit ℝ) : Rect :=
  (hit.box image.width image.height).translate area.origin

/-- A hit that fits into the view has its place where the view shows it. -/
theorem placeEdges (wide : screen.width < 2 ^ 31) (high : screen.height < 2 ^ 31) {left top : Nat}
    (isShown : Shows screen region area left top) {hit : Picture.Hit ℝ}
    (placed : area.picture.Placed image hit.x hit.y) :
    (place area image hit).left = left + hit.x ∧ (place area image hit).top = top + hit.y ∧
      (place area image hit).width.toNat = image.width ∧
      (place area image hit).height.toNat = image.height := by
  obtain ⟨across, down, insideX, insideY⟩ := placed
  have sceneX := isShown.insideX
  have sceneY := isShown.insideY
  have originX := isShown.x
  have originY := isShown.y
  have inRange : hit.InRange := ⟨by omega, by omega⟩
  obtain ⟨x, y, -, -⟩ := Picture.Hit.boxEdges (show image.width < 2 ^ 32 by omega)
    (show image.height < 2 ^ 32 by omega) inRange
  rw [Rect.left] at x
  rw [Rect.top] at y
  refine ⟨?_, ?_, Picture.Hit.sideFits (by omega), Picture.Hit.sideFits (by omega)⟩
  · change (saturatingAdd (hit.box image.width image.height).x area.origin.x).toInt = _
    rw [saturatingExact (by omega) (by omega)]
    omega
  · change (saturatingAdd (hit.box image.width image.height).y area.origin.y).toInt = _
    rw [saturatingExact (by omega) (by omega)]
    omega

/-- The inner rectangle lies within the edges of the outer one. -/
structure Inside (inner outer : Rect) : Prop where
  left : outer.left ≤ inner.left
  right : inner.right ≤ outer.right
  top : outer.top ≤ inner.top
  bottom : inner.bottom ≤ outer.bottom

/--
The match has the size of the image, and lies inside the screen and the region. Its confidence is
the score of the image at its place on the whole screen, and is at least the threshold.
-/
structure Located (screen image : Picture) (region : Option Rect) (label : String) (threshold : ℝ)
    (found : Match ℝ) : Prop where
  label : found.label = label
  width : found.bounds.width.toNat = image.width
  height : found.bounds.height.toNat = image.height
  onScreen : Inside found.bounds (whole screen)
  inRegion : ∀ wanted ∈ region, Inside found.bounds wanted
  enough : threshold ≤ found.confidence
  score : found.confidence = (Picture.Correlation.of screen image).score
    found.bounds.left.toNat found.bounds.top.toNat
  center : found.bounds.contains found.center = true

theorem hitLocated (wide : screen.width < 2 ^ 31) (high : screen.height < 2 ^ 31)
    (seen : view screen region = some area) (label : String) {threshold : ℝ}
    {hit : Picture.Hit ℝ} (across : 0 < image.width) (down : 0 < image.height)
    (sound : hit.Sound area.picture image threshold) :
    Located screen image region label threshold (matchOfHit area image label hit) := by
  obtain ⟨left, top, isShown⟩ := viewShows (by omega) (by omega) seen
  obtain ⟨x, y, width, height⟩ :=
    placeEdges wide high isShown ⟨across, down, sound.insideX, sound.insideY⟩
  obtain ⟨zeroX, zeroY, screenRight, screenBottom⟩ :=
    wholeEdges screen (by omega) (by omega)
  have right : (place area image hit).right = left + hit.x + image.width := by
    rw [Rect.right, x, width]
  have bottom : (place area image hit).bottom = top + hit.y + image.height := by
    rw [Rect.bottom, y, height]
  have insideX := sound.insideX
  have insideY := sound.insideY
  have sceneX := isShown.insideX
  have sceneY := isShown.insideY
  have column : (place area image hit).left.toNat = left + hit.x := by omega
  have row : (place area image hit).top.toNat = top + hit.y := by omega
  have bounds : (matchOfHit area image label hit).bounds = place area image hit := rfl
  refine ⟨rfl, width, height, ?_, fun wanted isWanted => ?_, sound.enough, ?_, ?_⟩
  · rw [bounds]
    constructor <;> omega
  · have edges := isShown.region wanted isWanted
    rw [bounds]
    constructor <;> omega
  · rw [bounds, column, row, ← Picture.scoreCrop sound.insideX sound.insideY sceneX sceneY,
      ← isShown.picture]
    exact sound.score
  · have fits : (place area image hit).MiddleFits := ⟨by omega, by omega⟩
    refine (Rect.centerInsideIff ?_ ?_).mpr fits
    · rwa [UInt32.lt_iff_toNat_lt, bounds, width]
    · rwa [UInt32.lt_iff_toNat_lt, bounds, height]

section

variable (filter : Type) [Scalar filter] {label : String}

/-- What is found is the match of a hit in the view, and the best of these matches. -/
theorem foundHit {scalar : Type} [Scalar scalar] {search : Picture.Search scalar}
    {threshold : scalar} (seen : view screen region = some area) :
    findImage filter search screen image label region threshold =
      Match.best? threshold area.bounds.center
        ((search.hits filter area.picture image threshold).map (matchOfHit area image label)) := by
  rw [findImage, seen]

/-- Nothing is found in a region off the screen, whatever the file of the image holds. -/
theorem nothingOffScreen {scalar : Type} [Scalar scalar] {search : Picture.Search scalar}
    {threshold : scalar} {wanted : Rect} (off : OffScreen screen wanted) :
    findImage filter search screen image label (some wanted) threshold = none := by
  rw [findImage, unseenIff.mpr off]

theorem lookOffScreen {finder : Finder} {wanted : Rect} (off : OffScreen finder.screen wanted)
    {files : PictureFiles} {cache kept : ImageCache} {picture : Picture}
    (readable : finder.image files cache label = (kept, .ok picture)) (threshold : Float) :
    finder.look files cache ⟨.image label, some wanted, threshold⟩ = (kept, .ok none) := by
  simp only [Finder.look, readable, nothingOffScreen Float32 off]

/--
Nothing is found in a region that has no pixel on the screen. Whatever is found lies inside the
screen and the region with the size of the image, has the score of its place on the whole screen as
its confidence, and contains its center.
-/
theorem imageLocated (search : Picture.Search ℝ) (screen image : Picture) (label : String)
    (region : Option Rect) (threshold : ℝ) (wide : screen.width < 2 ^ 31)
    (high : screen.height < 2 ^ 31) :
    (∀ wanted, region = some wanted → OffScreen screen wanted →
      findImage filter search screen image label region threshold = none ∧
      ∀ (finder : Finder) (files : PictureFiles) (cache kept : ImageCache) (picture : Picture)
        (least : Float), finder.screen = screen →
          finder.image files cache label = (kept, .ok picture) →
            finder.look files cache ⟨.image label, region, least⟩ = (kept, .ok none)) ∧
    ∀ found, findImage filter search screen image label region threshold = some found →
      Located screen image region label threshold found := by
  constructor
  · rintro wanted rfl off
    refine ⟨nothingOffScreen filter off, ?_⟩
    rintro finder files cache kept picture least rfl readable
    exact lookOffScreen off readable least
  · intro found isFound
    cases seen : view screen region with
    | none =>
        rw [findImage, seen] at isFound
        cases isFound
    | some area =>
        rw [foundHit filter seen] at isFound
        obtain ⟨hit, isHit, rfl⟩ := List.mem_map.mp (Match.exactBest isFound).candidate
        rcases Picture.Search.hitsCases filter search area.picture image threshold with
          nothing | ⟨⟨across, down⟩, hits, same, sound⟩
        · rw [nothing] at isHit
          cases isHit
        · rw [same] at isHit
          exact hitLocated wide high seen label across down
            (sound hit (Picture.Hit.memOfApart isHit))

end

/-- The screen of this picture is gray. -/
def gray : Picture := .generate 3 2 fun _ _ => 7

/-- The lower right pixel of this region is off the screen, but its upper left one is on it. -/
def corner : Rect := ⟨2, 1, 2, 2⟩

theorem spotAtCorner :
    findImage ℝ .standard gray Picture.Search.spot "spot" (some corner) (9 / 10 : ℝ) =
      some ⟨"spot", 1, ⟨2, 1, 1, 1⟩⟩ := by
  have seen : view gray (some corner) = some ⟨Picture.Search.spot, ⟨2, 1⟩⟩ := by rfl
  have moved : matchOfHit ⟨Picture.Search.spot, ⟨2, 1⟩⟩ Picture.Search.spot "spot" ⟨0, 0, 1⟩ =
      (⟨"spot", 1, ⟨2, 1, 1, 1⟩⟩ : Match ℝ) := by rfl
  have enough : (9 / 10 : ℝ) ≤ 1 := by norm_num
  rw [foundHit ℝ seen, Picture.Search.spotHits, List.map_singleton, moved]
  simp [Match.best?, Match.bestOf, Match.qualifies, enough]

/-- A spot is found in the corner of a gray screen, and nothing is found next to the screen. -/
theorem imageLocatedSpot :
    gray.width < 2 ^ 31 ∧ gray.height < 2 ^ 31 ∧ OffScreen gray ⟨3, 0, 5, 5⟩ ∧
    (∃ kept, (Finder.mk gray .standard none none).look (fun _ => .ok Picture.Search.spot) .empty
      ⟨.image "spot", some ⟨3, 0, 5, 5⟩, 0.9⟩ = (kept, .ok none)) ∧
    Located gray Picture.Search.spot (some corner) "spot" (9 / 10) ⟨"spot", 1, ⟨2, 1, 1, 1⟩⟩ := by
  have off : OffScreen gray ⟨3, 0, 5, 5⟩ := Rect.apartIff.mp (by decide)
  have beside := (imageLocated ℝ .standard gray Picture.Search.spot "spot"
    (some ⟨3, 0, 5, 5⟩) (9 / 10) (by decide) (by decide)).1 _ rfl off
  have located := (imageLocated ℝ .standard gray Picture.Search.spot "spot" (some corner) (9 / 10)
    (by decide) (by decide)).2 _ spotAtCorner
  exact ⟨by decide, by decide, off, ⟨_, beside.2 _ _ _ _ _ _ rfl rfl⟩, located⟩

end Screen

end DeskScript
