/-
This file holds the two checksums that picture files carry. It reads data that were made smaller
with repeats and with short codes for frequent bytes.
-/

namespace DeskScript

namespace Checksum

/-! ### Cyclic redundancy -/

def polynomial : UInt32 := 0xEDB88320

/-- One bit is shifted out. The polynomial is taken off if the bit was set. -/
def shiftBit (register : UInt32) : UInt32 :=
  if register &&& 1 = 1 then (register >>> 1) ^^^ polynomial else register >>> 1

def shiftByte (register : UInt32) : UInt32 :=
  shiftBit (shiftBit (shiftBit (shiftBit (shiftBit (shiftBit (shiftBit (shiftBit register)))))))

def cyclicStep (register : UInt32) (byte : UInt8) : UInt32 :=
  shiftByte (register ^^^ byte.toUInt32)

/-- The register starts with all bits set, and in the end all bits are turned over. -/
def cyclic (bytes : ByteArray) : UInt32 :=
  bytes.foldl cyclicStep 0xFFFFFFFF ^^^ 0xFFFFFFFF

/-! ### Sums -/

/-- This is the largest prime number below two to the power of sixteen. -/
def modulus : UInt32 := 65521

/-- The first sum adds the bytes, and the second one adds the values of the first. -/
def sumStep (sums : UInt32 × UInt32) (byte : UInt8) : UInt32 × UInt32 :=
  let first := (sums.1 + byte.toUInt32) % modulus
  (first, (sums.2 + first) % modulus)

def sums (bytes : ByteArray) : UInt32 :=
  let (first, second) := bytes.foldl sumStep (1, 0)
  (second <<< 16) ||| first

end Checksum

namespace Inflate

/-! ### Bits -/

/-- Bits are read from the low end of every byte. The position counts bits. -/
structure BitSource where
  bytes : ByteArray
  position : Nat

namespace BitSource

def bit? (source : BitSource) : Option (Nat × BitSource) :=
  if source.position / 8 < source.bytes.size then
    let byte := (source.bytes.get! (source.position / 8)).toNat
    some ((byte >>> (source.position % 8)) % 2, { source with position := source.position + 1 })
  else none

/-- The first of several bits has the least weight. -/
def bits? : Nat → BitSource → Option (Nat × BitSource)
  | 0, source => some (0, source)
  | count + 1, source => do
      let (low, source) ← source.bit?
      let (high, source) ← bits? count source
      return (low + 2 * high, source)

/-- This function passes over the rest of a byte. -/
def align (source : BitSource) : BitSource :=
  { source with position := (source.position + 7) / 8 * 8 }

/-- No more bits than this can be read. -/
def bitsLeft (source : BitSource) : Nat := 8 * source.bytes.size - source.position

end BitSource

/-! ### Codes -/

/-- A code is given by the number of its words of every length and by its symbols in order. -/
structure Code where
  counts : List Nat
  symbols : Array Nat

namespace Code

def lengths : List Nat := [1, 2, 3, 4, 5, 6, 7, 8, 9, 10, 11, 12, 13, 14, 15]

/-- These are the symbols whose words have a length, in order. -/
def symbolsOfLength (given : Array Nat) (length : Nat) : List Nat :=
  (List.range given.size).filter fun symbol => given.getD symbol 0 = length

/-- Shorter words come first, and words of one length are in the order of their symbols. -/
def ofLengths (given : Array Nat) : Code :=
  let ordered := lengths.map (symbolsOfLength given)
  ⟨ordered.map List.length, ordered.flatten.toArray⟩

/-- The words of every length follow each other, and the first one follows the shorter words. -/
def decodeFrom (symbols : Array Nat) : List Nat → Nat → Nat → Nat → BitSource →
    Option (Nat × BitSource)
  | [], _, _, _, _ => none
  | count :: rest, word, first, index, source => do
      let (bit, source) ← source.bit?
      let word := 2 * word + bit
      if word < first + count then return (← symbols[index + (word - first)]?, source)
      else decodeFrom symbols rest word (2 * (first + count)) (index + count) source

def decode? (code : Code) (source : BitSource) : Option (Nat × BitSource) :=
  decodeFrom code.symbols code.counts 0 0 0 source

end Code

/-! ### Repeats -/

/-- A symbol for a length or a distance stands for a base, to which some bits are added. -/
def bases (start : Nat) (extras : List Nat) : List (Nat × Nat) :=
  (extras.foldl (fun (next, found) extra => (next + 2 ^ extra, (next, extra) :: found))
    (start, [])).2.reverse

/-- These are the bases of the lengths. The greatest length has a symbol of its own. -/
def lengthBases : List (Nat × Nat) :=
  bases 3 [0, 0, 0, 0, 0, 0, 0, 0, 1, 1, 1, 1, 2, 2, 2, 2, 3, 3, 3, 3, 4, 4, 4, 4, 5, 5, 5, 5] ++
    [(258, 0)]

def distanceBases : List (Nat × Nat) :=
  bases 1 [0, 0, 0, 0, 1, 1, 2, 2, 3, 3, 4, 4, 5, 5, 6, 6, 7, 7, 8, 8, 9, 9, 10, 10, 11, 11, 12,
    12, 13, 13]

def extended? (table : List (Nat × Nat)) (symbol : Nat) (source : BitSource) :
    Option (Nat × BitSource) := do
  let (base, extra) ← table[symbol]?
  let (more, source) ← source.bits? extra
  return (base + more, source)

/-- A repeat may reach into the bytes that it adds itself. -/
def repeatBack (distance : Nat) : Nat → ByteArray → ByteArray
  | 0, output => output
  | count + 1, output =>
      repeatBack distance count (output.push (output.get! (output.size - distance)))

/-! ### Blocks -/

/-- The symbols of a block are bytes and repeats up to the end symbol. Each takes a bit at least. -/
def readSymbols (literals distances : Code) : Nat → ByteArray → BitSource →
    Option (ByteArray × BitSource)
  | 0, _, _ => none
  | fuel + 1, output, source => do
      let (symbol, source) ← literals.decode? source
      if symbol < 256 then readSymbols literals distances fuel (output.push symbol.toUInt8) source
      else if symbol = 256 then return (output, source)
      else
        let (length, source) ← extended? lengthBases (symbol - 257) source
        let (symbol, source) ← distances.decode? source
        let (distance, source) ← extended? distanceBases symbol source
        if output.size < distance then none
        else readSymbols literals distances fuel (repeatBack distance length output) source

/-- Words of fixed codes have these lengths. -/
def fixedLiterals : Code :=
  .ofLengths (Array.replicate 144 8 ++ Array.replicate 112 9 ++ Array.replicate 24 7 ++
    Array.replicate 8 8)

def fixedDistances : Code := .ofLengths (Array.replicate 30 5)

/-- A stored block gives its length twice, the second time with all bits turned over. -/
def readStored (output : ByteArray) (source : BitSource) : Option (ByteArray × BitSource) := do
  let (length, source) ← source.align.bits? 16
  let (check, source) ← source.bits? 16
  let start := source.position / 8
  if length + check ≠ 65535 ∨ source.bytes.size < start + length then none
  else
    return (output ++ source.bytes.extract start (start + length),
      { source with position := 8 * (start + length) })

/-- The lengths of words are themselves coded, and runs of equal lengths are cut short. -/
def readLengths (code : Code) (count : Nat) : Nat → Array Nat → BitSource →
    Option (Array Nat × BitSource)
  | 0, _, _ => none
  | fuel + 1, found, source =>
      if found.size = count then some (found, source)
      else if count < found.size then none
      else do
        let (symbol, source) ← code.decode? source
        if symbol < 16 then readLengths code count fuel (found.push symbol) source
        else if symbol = 16 then
          let last ← found.back?
          let (more, source) ← source.bits? 2
          readLengths code count fuel (found ++ Array.replicate (3 + more) last) source
        else
          let (more, source) ← if symbol = 17 then source.bits? 3
            else (source.bits? 7).map fun (more, source) => (more + 8, source)
          readLengths code count fuel (found ++ Array.replicate (3 + more) 0) source

/-- The lengths of the words for lengths come in this order. -/
def lengthOrder : List Nat := [16, 17, 18, 0, 8, 7, 9, 6, 10, 5, 11, 4, 12, 3, 13, 2, 14, 1, 15]

def readOrdered : List Nat → Array Nat → BitSource → Option (Array Nat × BitSource)
  | [], found, source => some (found, source)
  | place :: rest, found, source => do
      let (length, source) ← source.bits? 3
      readOrdered rest (found.set! place length) source

/-- A block with codes of its own gives them before its symbols. -/
def readCodes (source : BitSource) : Option (Code × Code × BitSource) := do
  let (literals, source) ← source.bits? 5
  let (distances, source) ← source.bits? 5
  let (given, source) ← source.bits? 4
  let (ordered, source) ← readOrdered (lengthOrder.take (given + 4)) (Array.replicate 19 0) source
  let count := literals + 257 + (distances + 1)
  let (lengths, source) ← readLengths (.ofLengths ordered) count (count + 1) #[] source
  return (.ofLengths (lengths.extract 0 (literals + 257)),
    .ofLengths (lengths.extract (literals + 257) count), source)

def readBlock (kind : Nat) (output : ByteArray) (source : BitSource) :
    Option (ByteArray × BitSource) :=
  if kind = 0 then readStored output source
  else if kind = 1 then
    readSymbols fixedLiterals fixedDistances (source.bitsLeft + 1) output source
  else if kind = 2 then do
    let (literals, distances, source) ← readCodes source
    readSymbols literals distances (source.bitsLeft + 1) output source
  else none

/-- Every block tells whether it is the last one. -/
def readBlocks : Nat → ByteArray → BitSource → Option (ByteArray × BitSource)
  | 0, _, _ => none
  | fuel + 1, output, source => do
      let (last, source) ← source.bit?
      let (kind, source) ← source.bits? 2
      let (output, source) ← readBlock kind output source
      if last = 1 then return (output, source) else readBlocks fuel output source

/-- Data have a header of two bytes, blocks, and a checksum of what was read. -/
def read? (bytes : ByteArray) : Option ByteArray := do
  let (method, source) ← BitSource.bits? 8 ⟨bytes, 0⟩
  let (flags, source) ← source.bits? 8
  if method % 16 ≠ 8 ∨ (256 * method + flags) % 31 ≠ 0 ∨ flags / 32 % 2 = 1 then none
  else
    let (output, source) ← readBlocks (source.bitsLeft + 1) ByteArray.empty source
    let start := source.align.position / 8
    let checksum := (bytes.extract start (start + 4)).foldl
      (fun value byte => 256 * value + byte.toNat) 0
    if bytes.size < start + 4 ∨ checksum ≠ (Checksum.sums output).toNat then none
    else return output

end Inflate

end DeskScript
