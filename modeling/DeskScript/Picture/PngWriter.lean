/-
This file writes pictures as files in the portable network format without making them smaller.
-/

import DeskScript.Picture.Png

namespace DeskScript.Png

/-- The first byte has the greatest weight. -/
def bigEndianBytes (value : Nat) : List UInt8 :=
  [(value / 2 ^ 24).toUInt8, (value / 2 ^ 16).toUInt8, (value / 2 ^ 8).toUInt8, value.toUInt8]

def bytesOf (values : List UInt8) : ByteArray := ⟨values.toArray⟩

/-- A chunk is written with its length before it and its checksum after it. -/
def writeChunk (name : String) (content : ByteArray) : ByteArray :=
  let named := name.toUTF8 ++ content
  bytesOf (bigEndianBytes content.size) ++ named ++
    bytesOf (bigEndianBytes (Checksum.cyclic named).toNat)

/-- The pixels of every row follow a zero for the filter that changes nothing. -/
def rowsOf (picture : Picture) : ByteArray :=
  picture.height.fold (fun y _ bytes =>
    picture.width.fold (fun x _ bytes => bytes.push (picture.brightness x y)) (bytes.push 0))
    ByteArray.empty

/-- A stored block is shorter than this. -/
def blockLimit : Nat := 65535

/-- The bytes are cut into stored blocks, the last of which is marked. -/
def storedBlocks (bytes : ByteArray) : Nat → Nat → ByteArray
  | 0, _ => ByteArray.empty
  | count + 1, start =>
      let length := min blockLimit (bytes.size - start)
      let check := 65535 - length
      bytesOf [if count = 0 then 1 else 0, length.toUInt8, (length / 256).toUInt8, check.toUInt8,
          (check / 256).toUInt8] ++
        bytes.extract start (start + length) ++ storedBlocks bytes count (start + length)

def stored (bytes : ByteArray) : ByteArray :=
  bytesOf [120, 1] ++ storedBlocks bytes (bytes.size / blockLimit + 1) 0 ++
    bytesOf (bigEndianBytes (Checksum.sums bytes).toNat)

/-- A picture is written with one gray sample of eight bits for every pixel. -/
def encode (picture : Picture) : ByteArray :=
  let header := bytesOf (bigEndianBytes picture.width ++ bigEndianBytes picture.height ++
    [8, 0, 0, 0, 0])
  bytesOf signature ++ writeChunk "IHDR" header ++
    writeChunk "IDAT" (stored (rowsOf picture)) ++ writeChunk "IEND" ByteArray.empty

end DeskScript.Png
