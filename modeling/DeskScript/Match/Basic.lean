/-
This file holds what is found on a screen. The best of several finds is chosen, finds are put into
the order in which a page is read, and the words of a query are compared with words on the screen.
-/

import DeskScript.Condition
import DeskScript.Geometry
import DeskScript.Text.Case

namespace DeskScript

/-- A match is an image or a text that was found, with the rectangle that it fills. -/
structure Match (scalar : Type) where
  label : String
  confidence : scalar
  bounds : Rect

namespace Match

section

variable {scalar : Type}

def center (found : Match scalar) : Point := found.bounds.center

variable [Scalar scalar]

/-- A match qualifies when its confidence is at least a threshold. -/
def qualifies (threshold : scalar) (found : Match scalar) : Bool :=
  threshold ≤ found.confidence

/--
The first match is better than the second when its confidence is greater, or when neither
confidence is greater and its center is nearer to the anchor.
-/
def betterThan (anchor : Point) (first second : Match scalar) : Bool :=
  if Scalar.exceeds first.confidence second.confidence then true
  else if Scalar.exceeds second.confidence first.confidence then false
  else first.center.distanceSquared anchor < second.center.distanceSquared anchor

/-- Of two matches that are equally good the first one stays. -/
def bestOf (anchor : Point) (best : Option (Match scalar)) (found : Match scalar) :
    Option (Match scalar) :=
  match best with
  | none => some found
  | some best => if found.betterThan anchor best then some found else some best

/-- This is the first of the best matches that qualify. -/
def best? (threshold : scalar) (anchor : Point) (candidates : List (Match scalar)) :
    Option (Match scalar) :=
  (candidates.filter (qualifies threshold)).foldl (bestOf anchor) none

end

/-! ### Scan order -/

section

variable {scalar : Type}

/-- The first match comes no later than the second from top to bottom and then from the left. -/
def isAbove (first second : Match scalar) : Bool :=
  first.center.y < second.center.y ||
    (first.center.y = second.center.y && first.center.x ≤ second.center.x)

def isLeft (first second : Match scalar) : Bool := first.center.x ≤ second.center.x

/-- This is half the height of the lower of two matches, and at least one. -/
def tolerance (first second : Match scalar) : Int32 :=
  (max (min first.bounds.height second.bounds.height / 2) 1).toInt32

/-- A match shares the line of the line's first match when their centers are about as high. -/
def sharesLine (first found : Match scalar) : Bool :=
  (found.center.y - first.center.y).abs ≤ tolerance first found

/-- This function splits the matches after the first one of a line into the line and the rest. -/
def splitLine (first : Match scalar) :
    List (Match scalar) → List (Match scalar) × List (Match scalar)
  | [] => ([], [])
  | found :: rest =>
      if sharesLine first found then
        let split := splitLine first rest
        (found :: split.1, split.2)
      else ([], found :: rest)

theorem splitLineAppend (first : Match scalar) (rest : List (Match scalar)) :
    (splitLine first rest).1 ++ (splitLine first rest).2 = rest := by
  induction rest with
  | nil => rfl
  | cons found rest hypothesis =>
      by_cases shares : sharesLine first found
      · simp [splitLine, shares, hypothesis]
      · simp [splitLine, shares]

theorem splitLineShorter (first : Match scalar) (rest : List (Match scalar)) :
    (splitLine first rest).2.length ≤ rest.length := by
  have length := congrArg List.length (splitLineAppend first rest)
  rw [List.length_append] at length
  omega

/-- Matches in order from the top are cut into lines. -/
def lines : List (Match scalar) → List (List (Match scalar))
  | [] => []
  | first :: rest =>
      (first :: (splitLine first rest).1) :: lines (splitLine first rest).2
termination_by matches_ => matches_.length
decreasing_by
  have shorter := splitLineShorter first rest
  simp only [List.length_cons]
  omega

/-- This is the scan order: lines from the top, and every line from the left. -/
def scanOrder (found : List (Match scalar)) : List (Match scalar) :=
  (lines (found.mergeSort isAbove)).flatMap fun line => line.mergeSort isLeft

theorem linesFlatten (found : List (Match scalar)) : (lines found).flatten = found := by
  fun_induction lines found with
  | case1 => rfl
  | case2 first rest hypothesis =>
      rw [List.flatten_cons, hypothesis, List.cons_append, splitLineAppend]

end

/-! ### Words -/

/-- The plain form of a text is in lower case and has one space between its words. -/
def plainChars (text : List Char) : List Char :=
  Text.lowerChars (List.intercalate [' '] (Text.words text))

def plain (text : String) : String := String.ofList (plainChars text.toList)

/--
Blank texts match nothing. An exact match has the same plain form. Otherwise the candidate
contains the query, or the query contains a candidate of three or more characters.
-/
def wordingMatches (query candidate : String) (exact : Bool) : Bool :=
  let query := plainChars query.toList
  let candidate := plainChars candidate.toList
  if query.isEmpty || candidate.isEmpty then false
  else if exact then query = candidate
  else occursIn query candidate || (2 < candidate.length && occursIn candidate query)

end Match

end DeskScript
