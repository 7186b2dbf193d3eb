/-
This file reads the brightness of pictures from files in the portable network format.
-/

import DeskScript.Picture.Basic
import DeskScript.Picture.Inflate

namespace DeskScript.Png

inductive PngFault where
  | signature
  | truncated
  | checksum
  | header
  | interlaced
  | palette
  | compression
  | filter
  deriving DecidableEq

def PngFault.message : PngFault → String
  | .signature => "not a PNG file"
  | .truncated => "the file ends too early"
  | .checksum => "a checksum does not fit"
  | .header => "the header is not valid"
  | .interlaced => "interlaced pictures are not supported"
  | .palette => "the palette is not valid"
  | .compression => "the pixels cannot be decompressed"
  | .filter => "a row has an unknown filter"

/-! ### Chunks -/

def signature : List UInt8 := [137, 80, 78, 71, 13, 10, 26, 10]

/-- A chunk has a name of four letters and data. -/
structure Chunk where
  name : String
  content : ByteArray

/-- The first byte has the greatest weight. -/
def bigEndian (bytes : ByteArray) (start count : Nat) : Nat :=
  (bytes.extract start (start + count)).foldl (fun value byte => 256 * value + byte.toNat) 0

/-- Chunks follow each other up to the end chunk. A chunk takes twelve bytes at least. -/
def chunksFrom (bytes : ByteArray) : Nat → Nat → Except PngFault (List Chunk)
  | 0, _ => .error .truncated
  | fuel + 1, start =>
      let length := bigEndian bytes start 4
      let stop := start + 8 + length
      if bytes.size < stop + 4 then .error .truncated
      else if bigEndian bytes stop 4 ≠ (Checksum.cyclic (bytes.extract (start + 4) stop)).toNat then
        .error .checksum
      else
        let name := (bytes.extract (start + 4) (start + 8)).toList.map fun byte =>
          Char.ofNat byte.toNat
        if name = ['I', 'E', 'N', 'D'] then .ok []
        else do
          let rest ← chunksFrom bytes fuel (stop + 4)
          return ⟨String.ofList name, bytes.extract (start + 8) stop⟩ :: rest

def chunks (bytes : ByteArray) : Except PngFault (List Chunk) :=
  if (bytes.extract 0 8).toList = signature then chunksFrom bytes (bytes.size / 12 + 1) 8
  else .error .signature

/-! ### Headers -/

/-- A pixel is a gray value, three colors, or a place in a palette. -/
inductive ColorKind where
  | gray
  | colors
  | palette
  deriving DecidableEq

/-- Every sample of a pixel takes a number of bits. A pixel may have a sample for its opacity. -/
structure Header where
  width : Nat
  height : Nat
  depth : Nat
  kind : ColorKind
  hasOpacity : Bool

namespace Header

def kinds : List (Nat × ColorKind × Bool × List Nat) :=
  [(0, .gray, false, [1, 2, 4, 8, 16]), (2, .colors, false, [8, 16]),
    (3, .palette, false, [1, 2, 4, 8]), (4, .gray, true, [8, 16]), (6, .colors, true, [8, 16])]

def ofBytes (bytes : ByteArray) : Except PngFault Header :=
  let width := bigEndian bytes 0 4
  let height := bigEndian bytes 4 4
  let depth := bigEndian bytes 8 1
  match kinds.lookup (bigEndian bytes 9 1) with
  | none => .error .header
  | some (kind, hasOpacity, depths) =>
      if bytes.size ≠ 13 ∨ width = 0 ∨ height = 0 ∨ !depths.contains depth ∨
          bigEndian bytes 10 2 ≠ 0 then .error .header
      else if bigEndian bytes 12 1 ≠ 0 then .error .interlaced
      else .ok ⟨width, height, depth, kind, hasOpacity⟩

/-- This is the number of samples of a pixel. -/
def samples (header : Header) : Nat :=
  (if header.kind = .colors then 3 else 1) + if header.hasOpacity then 1 else 0

def bytesPerRow (header : Header) : Nat :=
  (header.width * header.samples * header.depth + 7) / 8

/-- Filters look back by a pixel, but by one byte at least. -/
def bytesPerPixel (header : Header) : Nat := max (header.samples * header.depth / 8) 1

end Header

/-! ### Filters -/

/-- Of three neighbors this is the one nearest to the value that they point to. -/
def nearestNeighbor (left above corner : UInt8) : UInt8 :=
  let target := (left.toNat : Int) + above.toNat - corner.toNat
  let toLeft := (target - left.toNat).natAbs
  let toAbove := (target - above.toNat).natAbs
  let toCorner := (target - corner.toNat).natAbs
  if toLeft ≤ toAbove ∧ toLeft ≤ toCorner then left
  else if toAbove ≤ toCorner then above
  else corner

/-- A filter tells which value was taken off a byte. -/
def filterOf? (kind : UInt8) : Option (UInt8 → UInt8 → UInt8 → UInt8) :=
  if kind = 0 then some fun _ _ _ => 0
  else if kind = 1 then some fun left _ _ => left
  else if kind = 2 then some fun _ above _ => above
  else if kind = 3 then some fun left above _ => ((left.toNat + above.toNat) / 2).toUInt8
  else if kind = 4 then some nearestNeighbor
  else none

/-- This function gives the byte at a place, or zero beyond the edges. -/
def byteAt (bytes : ByteArray) (index : Nat) : UInt8 :=
  if index < bytes.size then bytes.get! index else 0

def byteBefore (bytes : ByteArray) (step index : Nat) : UInt8 :=
  if step ≤ index then byteAt bytes (index - step) else 0

/-- The value that was taken off every byte of a row is added again. -/
def restoreRow (predict : UInt8 → UInt8 → UInt8 → UInt8) (step : Nat) (above given : ByteArray) :
    ByteArray :=
  given.size.fold (fun index _ row =>
    row.push (byteAt given index + predict (byteBefore row step index) (byteAt above index)
      (byteBefore above step index))) ByteArray.empty

/-- Every row starts with the number of its filter. -/
def restoreRows (header : Header) (bytes : ByteArray) : Nat → Nat → ByteArray →
    Except PngFault (List ByteArray)
  | 0, _, _ => .ok []
  | count + 1, start, above =>
      let stop := start + 1 + header.bytesPerRow
      if bytes.size < stop then .error .truncated
      else
        match filterOf? (byteAt bytes start) with
        | none => .error .filter
        | some predict => do
            let row := restoreRow predict header.bytesPerPixel above
              (bytes.extract (start + 1) stop)
            return row :: (← restoreRows header bytes count stop row)

/-! ### Brightness -/

def sample (depth : Nat) (row : ByteArray) (index : Nat) : Nat :=
  if depth = 16 then 256 * (byteAt row (2 * index)).toNat + (byteAt row (2 * index + 1)).toNat
  else
    let bit := index * depth
    ((byteAt row (bit / 8)).toNat >>> (8 - depth - bit % 8)) % 2 ^ depth

/-- Samples are brought to eight bits. -/
def toByte (depth value : Nat) : UInt8 :=
  if depth = 16 then ((value + 128) / 257).toUInt8
  else (value * 255 / (2 ^ depth - 1)).toUInt8

/-- Green counts most for the brightness of a color, and blue counts least. -/
def luminance (red green blue : Nat) : Nat :=
  (2126 * red + 7152 * green + 722 * blue) / 10000

def pixel (header : Header) (palette : ByteArray) (row : ByteArray) (x : Nat) : UInt8 :=
  let value (offset : Nat) : Nat := sample header.depth row (x * header.samples + offset)
  match header.kind with
  | .gray => toByte header.depth (value 0)
  | .colors => toByte header.depth (luminance (value 0) (value 1) (value 2))
  | .palette =>
      let color (offset : Nat) : Nat := (byteAt palette (3 * value 0 + offset)).toNat
      (luminance (color 0) (color 1) (color 2)).toUInt8

def chunkNamed (found : List Chunk) (name : String) : ByteArray :=
  (found.filter fun chunk => chunk.name = name).foldl
    (fun bytes chunk => bytes ++ chunk.content) ByteArray.empty

/-- This function reads a picture from the bytes of a file. -/
def decode (bytes : ByteArray) : Except PngFault Picture := do
  let found ← chunks bytes
  let header ← Header.ofBytes (chunkNamed found "IHDR")
  let palette := chunkNamed found "PLTE"
  if header.kind = .palette ∧ palette.size = 0 then throw .palette
  match Inflate.read? (chunkNamed found "IDAT") with
  | none => throw .compression
  | some unpacked =>
      let rows := (← restoreRows header unpacked header.height 0 ByteArray.empty).toArray
      return .generate header.width header.height fun x y =>
        pixel header palette (rows.getD y ByteArray.empty) x

end DeskScript.Png
