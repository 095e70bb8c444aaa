import EtlSurvey.Text.Basic
import EtlSurvey.Text.Utf8

/-! The SHA-256 digest. -/

namespace EtlSurvey.Sha256
open Text

/-- The first primes, whose square and cube roots give the constants. -/
def primes : List Nat := [
  2, 3, 5, 7, 11, 13, 17, 19, 23, 29, 31, 37, 41, 43, 47, 53, 59, 61, 67, 71, 73, 79, 83, 89, 97,
  101, 103, 107, 109, 113, 127, 131, 137, 139, 149, 151, 157, 163, 167, 173, 179, 181, 191, 193,
  197, 199, 211, 223, 227, 229, 233, 239, 241, 251, 257, 263, 269, 271, 277, 281, 283, 293, 307,
  311]

/-- Largest number whose power stays within the bound, found bit by bit from the given one. -/
def rootFrom (power bound : Nat) : Nat → Nat → Nat
  | 0, root => root
  | bit + 1, root =>
    let next := root + (1 <<< bit)
    rootFrom power bound bit (if Nat.pow next power ≤ bound then next else root)

/-- The first 32 bits of the fractional part of a root. -/
def rootBits (power n : Nat) : UInt32 := UInt32.ofNat (rootFrom power (n <<< (32 * power)) 40 0)

def roundConstants : List UInt32 := primes.map (rootBits 3)

def initialState : List UInt32 := (primes.take 8).map (rootBits 2)

def rotr (x : UInt32) (n : UInt32) : UInt32 := (x >>> n) ||| (x <<< (32 - n))

def bigEndian (width n : Nat) : Bytes :=
  (List.range width).reverse.map fun i => UInt8.ofNat ((n >>> (8 * i)) % 256)

/-- The message, a single bit, zeros, and the length in bits. -/
def padded (message : Bytes) : Bytes :=
  let zeros := (119 - message.length % 64) % 64
  message ++ 0x80 :: List.replicate zeros 0 ++ bigEndian 8 (8 * message.length)

def wordOf (bytes : Bytes) : UInt32 :=
  bytes.foldl (fun n b => n * 256 + UInt32.ofNat b.toNat) 0

/-- Cuts a list into pieces of a positive size. -/
def chunksFrom : Nat → Nat → List α → List (List α)
  | 0, _, _ => []
  | _, _, [] => []
  | fuel + 1, size, xs => xs.take size :: chunksFrom fuel size (xs.drop size)

def chunks (size : Nat) (xs : List α) : List (List α) := chunksFrom xs.length size xs

/-- Extends the schedule, which is held last word first. -/
def extendSchedule : Nat → List UInt32 → List UInt32
  | 0, words => words
  | n + 1, words =>
    let w := fun i => words.getD i 0
    let s0 := rotr (w 14) 7 ^^^ rotr (w 14) 18 ^^^ (w 14 >>> 3)
    let s1 := rotr (w 1) 17 ^^^ rotr (w 1) 19 ^^^ (w 1 >>> 10)
    extendSchedule n ((w 15 + s0 + w 6 + s1) :: words)

structure Registers where
  a : UInt32
  b : UInt32
  c : UInt32
  d : UInt32
  e : UInt32
  f : UInt32
  g : UInt32
  h : UInt32

def Registers.ofList (s : List UInt32) : Registers :=
  let word := fun i => s.getD i 0
  ⟨word 0, word 1, word 2, word 3, word 4, word 5, word 6, word 7⟩

def Registers.toList (r : Registers) : List UInt32 := [r.a, r.b, r.c, r.d, r.e, r.f, r.g, r.h]

def round (r : Registers) (k w : UInt32) : Registers :=
  let s1 := rotr r.e 6 ^^^ rotr r.e 11 ^^^ rotr r.e 25
  let ch := (r.e &&& r.f) ^^^ (~~~r.e &&& r.g)
  let t1 := r.h + s1 + ch + k + w
  let s0 := rotr r.a 2 ^^^ rotr r.a 13 ^^^ rotr r.a 22
  let maj := (r.a &&& r.b) ^^^ (r.a &&& r.c) ^^^ (r.b &&& r.c)
  ⟨t1 + (s0 + maj), r.a, r.b, r.c, r.d + t1, r.e, r.f, r.g⟩

def compress (constants state : List UInt32) (block : Bytes) : List UInt32 :=
  let words := (extendSchedule 48 ((chunks 4 block).map wordOf).reverse).reverse
  let last := (constants.zip words).foldl (fun r (k, w) => round r k w) (.ofList state)
  List.zipWith (· + ·) state last.toList

def digest (message : Bytes) : Bytes :=
  let constants := roundConstants
  let state := (chunks 64 (padded message)).foldl (compress constants) initialState
  state.flatMap fun w => bigEndian 4 w.toNat

def hexByte (b : UInt8) : List Char := [hexDigit (b.toNat / 16), hexDigit (b.toNat % 16)]

/-- The digest in hexadecimal digits, lower case. -/
def hex (message : Bytes) : String := String.ofList ((digest message).flatMap hexByte)

end EtlSurvey.Sha256
