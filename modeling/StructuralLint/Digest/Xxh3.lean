/-!
# Digests of texts

The 64-bit digest XXH3 with seed zero, over the UTF-8 bytes of a text. It has one formula for each
of six ranges of lengths; all arithmetic is modulo 2 ^ 64.
-/

namespace StructuralLint.Digest

/-- Bytes of a text; those past the end read as zero. -/
abbrev Bytes := Array UInt8

/-- The byte at an offset. -/
def byte (bytes : Bytes) (offset : Nat) : UInt64 :=
  (bytes.getD offset 0).toUInt64

/-- Some bytes from an offset on as a number, the least significant first. -/
def little (bytes : Bytes) (offset : Nat) : Nat → UInt64
  | 0 => 0
  | count + 1 => byte bytes offset ||| (little bytes (offset + 1) count <<< 8)

/-- Four bytes as a number. -/
def read32 (bytes : Bytes) (offset : Nat) : UInt64 :=
  little bytes offset 4

/-- Eight bytes as a number. -/
def read64 (bytes : Bytes) (offset : Nat) : UInt64 :=
  little bytes offset 8

/-- The secret bytes that inputs are mixed with. -/
def secret : Bytes :=
  #[0xb8, 0xfe, 0x6c, 0x39, 0x23, 0xa4, 0x4b, 0xbe, 0x7c, 0x01, 0x81, 0x2c, 0xf7, 0x21, 0xad,
    0x1c, 0xde, 0xd4, 0x6d, 0xe9, 0x83, 0x90, 0x97, 0xdb, 0x72, 0x40, 0xa4, 0xa4, 0xb7, 0xb3,
    0x67, 0x1f, 0xcb, 0x79, 0xe6, 0x4e, 0xcc, 0xc0, 0xe5, 0x78, 0x82, 0x5a, 0xd0, 0x7d, 0xcc,
    0xff, 0x72, 0x21, 0xb8, 0x08, 0x46, 0x74, 0xf7, 0x43, 0x24, 0x8e, 0xe0, 0x35, 0x90, 0xe6,
    0x81, 0x3a, 0x26, 0x4c, 0x3c, 0x28, 0x52, 0xbb, 0x91, 0xc3, 0x00, 0xcb, 0x88, 0xd0, 0x65,
    0x8b, 0x1b, 0x53, 0x2e, 0xa3, 0x71, 0x64, 0x48, 0x97, 0xa2, 0x0d, 0xf9, 0x4e, 0x38, 0x19,
    0xef, 0x46, 0xa9, 0xde, 0xac, 0xd8, 0xa8, 0xfa, 0x76, 0x3f, 0xe3, 0x9c, 0x34, 0x3f, 0xf9,
    0xdc, 0xbb, 0xc7, 0xc7, 0x0b, 0x4f, 0x1d, 0x8a, 0x51, 0xe0, 0x4b, 0xcd, 0xb4, 0x59, 0x31,
    0xc8, 0x9f, 0x7e, 0xc9, 0xd9, 0x78, 0x73, 0x64, 0xea, 0xc5, 0xac, 0x83, 0x34, 0xd3, 0xeb,
    0xc3, 0xc5, 0x81, 0xa0, 0xff, 0xfa, 0x13, 0x63, 0xeb, 0x17, 0x0d, 0xdd, 0x51, 0xb7, 0xf0,
    0xda, 0x49, 0xd3, 0x16, 0x55, 0x26, 0x29, 0xd4, 0x68, 0x9e, 0x2b, 0x16, 0xbe, 0x58, 0x7d,
    0x47, 0xa1, 0xfc, 0x8f, 0xf8, 0xb8, 0xd1, 0x7a, 0xd0, 0x31, 0xce, 0x45, 0xcb, 0x3a, 0x8f,
    0x95, 0x16, 0x04, 0x28, 0xaf, 0xd7, 0xfb, 0xca, 0xbb, 0x4b, 0x40, 0x7e]

/-- Eight secret bytes as a number. -/
def key (offset : Nat) : UInt64 :=
  read64 secret offset

/-- First of the odd constants of 32 bits. -/
def prime32A : UInt64 := 0x9E3779B1

/-- Second of the odd constants of 32 bits. -/
def prime32B : UInt64 := 0x85EBCA77

/-- Third of the odd constants of 32 bits. -/
def prime32C : UInt64 := 0xC2B2AE3D

/-- First of the odd constants of 64 bits. -/
def prime64A : UInt64 := 0x9E3779B185EBCA87

/-- Second of the odd constants of 64 bits. -/
def prime64B : UInt64 := 0xC2B2AE3D27D4EB4F

/-- Third of the odd constants of 64 bits. -/
def prime64C : UInt64 := 0x165667B19E3779F9

/-- Fourth of the odd constants of 64 bits. -/
def prime64D : UInt64 := 0x85EBCA77C2B2AE63

/-- Fifth of the odd constants of 64 bits. -/
def prime64E : UInt64 := 0x27D4EB2F165667C5

/-- The constant of the final mix of long inputs. -/
def primeMixA : UInt64 := 0x165667919E3779F9

/-- The constant of the final mix of inputs of four to eight bytes. -/
def primeMixB : UInt64 := 0x9FB21C651E98DF25

/-- Rotates to the left. -/
def rotateLeft (value amount : UInt64) : UInt64 :=
  (value <<< amount) ||| (value >>> (64 - amount))

/-- Folds the upper bits onto the lower. -/
def xorShift (value amount : UInt64) : UInt64 :=
  value ^^^ (value >>> amount)

/-- The bytes of a number in reverse order. -/
def swapBytes (value : UInt64) : UInt64 :=
  (List.range 8).foldl
    (fun swapped position => (swapped <<< 8) ||| ((value >>> (8 * position.toUInt64)) &&& 0xFF)) 0

/-- The two halves of a product of 128 bits, combined. -/
def foldProduct (left right : UInt64) : UInt64 :=
  let product := left.toNat * right.toNat
  product.toUInt64 ^^^ (product / UInt64.size).toUInt64

/-- The final mix of long inputs. -/
def avalanche (value : UInt64) : UInt64 :=
  xorShift (xorShift value 37 * primeMixA) 32

/-- The final mix of the shortest inputs. -/
def avalancheShort (value : UInt64) : UInt64 :=
  xorShift (xorShift (xorShift value 33 * prime64B) 29 * prime64C) 32

/-- Sixteen bytes mixed with sixteen secret bytes. -/
def mix16 (bytes : Bytes) (offset keyOffset : Nat) : UInt64 :=
  foldProduct (read64 bytes offset ^^^ key keyOffset)
    (read64 bytes (offset + 8) ^^^ key (keyOffset + 8))

/-- The length of an input as a number. -/
def sizeOf (bytes : Bytes) : UInt64 :=
  bytes.size.toUInt64

/-- The digest of no bytes. -/
def digest0 : UInt64 :=
  avalancheShort (key 56 ^^^ key 64)

/-- The digest of one to three bytes. -/
def digest3 (bytes : Bytes) : UInt64 :=
  let first := byte bytes 0
  let middle := byte bytes (bytes.size / 2)
  let last := byte bytes (bytes.size - 1)
  let combined := (first <<< 16) ||| (middle <<< 24) ||| last ||| (sizeOf bytes <<< 8)
  avalancheShort (combined ^^^ (read32 secret 0 ^^^ read32 secret 4))

/-- The digest of four to eight bytes. -/
def digest8 (bytes : Bytes) : UInt64 :=
  let first := read32 bytes 0
  let last := read32 bytes (bytes.size - 4)
  let keyed := (last + (first <<< 32)) ^^^ (key 8 ^^^ key 16)
  let rotated := keyed ^^^ rotateLeft keyed 49 ^^^ rotateLeft keyed 24
  let mixed := rotated * primeMixB
  let sized := (mixed ^^^ ((mixed >>> 35) + sizeOf bytes)) * primeMixB
  xorShift sized 28

/-- The digest of nine to sixteen bytes. -/
def digest16 (bytes : Bytes) : UInt64 :=
  let low := read64 bytes 0 ^^^ (key 24 ^^^ key 32)
  let high := read64 bytes (bytes.size - 8) ^^^ (key 40 ^^^ key 48)
  avalanche (sizeOf bytes + swapBytes low + high + foldProduct low high)

/-- The digest of 17 to 128 bytes: pairs of sixteen bytes from both ends inwards. -/
def digest128 (bytes : Bytes) : UInt64 :=
  let pairs := (bytes.size - 1) / 32 + 1
  avalanche ((List.range pairs).foldl
    (fun sum pair =>
      sum + mix16 bytes (16 * pair) (32 * pair) +
        mix16 bytes (bytes.size - 16 * (pair + 1)) (32 * pair + 16))
    (sizeOf bytes * prime64A))

/-- The digest of 129 to 240 bytes. -/
def digest240 (bytes : Bytes) : UInt64 :=
  let rounds := bytes.size / 16
  let start := (List.range 8).foldl
    (fun sum round => sum + mix16 bytes (16 * round) (16 * round)) (sizeOf bytes * prime64A)
  let rest := (List.range (rounds - 8)).foldl
    (fun sum round => sum + mix16 bytes (16 * (round + 8)) (16 * round + 3)) (avalanche start)
  avalanche (rest + mix16 bytes (bytes.size - 16) 119)

/-! ## Long inputs -/

/-- The eight lanes in which long inputs are accumulated. -/
abbrev Lanes := List UInt64

/-- The lanes before any input. -/
def firstLanes : Lanes :=
  [prime32C, prime64A, prime64B, prime64C, prime64D, prime32B, prime64E, prime32A]

/--
Takes in 64 bytes: each lane takes the product of the halves of its keyed word and the plain
word of its neighbour.
-/
def accumulate (bytes : Bytes) (offset keyOffset : Nat) (lanes : Lanes) : Lanes :=
  lanes.mapIdx fun lane value =>
    let keyed := read64 bytes (offset + 8 * lane) ^^^ key (keyOffset + 8 * lane)
    let neighbour := read64 bytes (offset + 8 * (if lane % 2 == 0 then lane + 1 else lane - 1))
    value + neighbour + (keyed % 0x100000000) * (keyed >>> 32)

/-- Mixes the lanes after a block of 1024 bytes. -/
def scramble (lanes : Lanes) : Lanes :=
  lanes.mapIdx fun lane value => (xorShift value 47 ^^^ key (128 + 8 * lane)) * prime32A

/-- Takes in some stripes of 64 bytes from an offset on. -/
def accumulateStripes (bytes : Bytes) (offset count : Nat) (lanes : Lanes) : Lanes :=
  (List.range count).foldl
    (fun lanes stripe => accumulate bytes (offset + 64 * stripe) (8 * stripe) lanes) lanes

/-- The digest of the lanes of an input. -/
def mergeLanes (lanes : Lanes) (start : UInt64) : UInt64 :=
  let lane (position : Nat) : UInt64 := lanes.getD position 0
  avalanche ((List.range 4).foldl
    (fun sum pair =>
      sum + foldProduct (lane (2 * pair) ^^^ key (11 + 16 * pair))
        (lane (2 * pair + 1) ^^^ key (19 + 16 * pair)))
    start)

/-- The digest of more than 240 bytes. -/
def digestLong (bytes : Bytes) : UInt64 :=
  let blocks := (bytes.size - 1) / 1024
  let lanes := (List.range blocks).foldl
    (fun lanes block => scramble (accumulateStripes bytes (1024 * block) 16 lanes)) firstLanes
  let stripes := (bytes.size - 1 - 1024 * blocks) / 64
  let partly := accumulateStripes bytes (1024 * blocks) stripes lanes
  let complete := accumulate bytes (bytes.size - 64) 121 partly
  mergeLanes complete (sizeOf bytes * prime64A)

/-- The digest of some bytes. -/
def ofBytes (bytes : Bytes) : UInt64 :=
  if bytes.size == 0 then digest0
  else if bytes.size ≤ 3 then digest3 bytes
  else if bytes.size ≤ 8 then digest8 bytes
  else if bytes.size ≤ 16 then digest16 bytes
  else if bytes.size ≤ 128 then digest128 bytes
  else if bytes.size ≤ 240 then digest240 bytes
  else digestLong bytes

/-- The digest of a text. -/
def ofText (text : String) : UInt64 :=
  ofBytes text.toUTF8.data

/-- A digest as sixteen hexadecimal digits. -/
def hexadecimal (digest : UInt64) : String :=
  let digits := Nat.toDigits 16 digest.toNat
  String.ofList (List.replicate (16 - digits.length) '0' ++ digits)

end StructuralLint.Digest
