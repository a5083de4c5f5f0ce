namespace ConsentGate.Sha256

abbrev Words (n : Nat) := Vector UInt32 n

def roundConstants : Words 64 := #v[
  0x428a2f98, 0x71374491, 0xb5c0fbcf, 0xe9b5dba5, 0x3956c25b, 0x59f111f1, 0x923f82a4, 0xab1c5ed5,
  0xd807aa98, 0x12835b01, 0x243185be, 0x550c7dc3, 0x72be5d74, 0x80deb1fe, 0x9bdc06a7, 0xc19bf174,
  0xe49b69c1, 0xefbe4786, 0x0fc19dc6, 0x240ca1cc, 0x2de92c6f, 0x4a7484aa, 0x5cb0a9dc, 0x76f988da,
  0x983e5152, 0xa831c66d, 0xb00327c8, 0xbf597fc7, 0xc6e00bf3, 0xd5a79147, 0x06ca6351, 0x14292967,
  0x27b70a85, 0x2e1b2138, 0x4d2c6dfc, 0x53380d13, 0x650a7354, 0x766a0abb, 0x81c2c92e, 0x92722c85,
  0xa2bfe8a1, 0xa81a664b, 0xc24b8b70, 0xc76c51a3, 0xd192e819, 0xd6990624, 0xf40e3585, 0x106aa070,
  0x19a4c116, 0x1e376c08, 0x2748774c, 0x34b0bcb5, 0x391c0cb3, 0x4ed8aa4a, 0x5b9cca4f, 0x682e6ff3,
  0x748f82ee, 0x78a5636f, 0x84c87814, 0x8cc70208, 0x90befffa, 0xa4506ceb, 0xbef9a3f7, 0xc67178f2]

structure State where
  a : UInt32
  b : UInt32
  c : UInt32
  d : UInt32
  e : UInt32
  f : UInt32
  g : UInt32
  h : UInt32

def initial : State where
  a := 0x6a09e667
  b := 0xbb67ae85
  c := 0x3c6ef372
  d := 0xa54ff53a
  e := 0x510e527f
  f := 0x9b05688c
  g := 0x1f83d9ab
  h := 0x5be0cd19

def rotate (x : UInt32) (n : UInt32) : UInt32 := (x >>> n) ||| (x <<< (32 - n))

def State.step (s : State) (word : UInt32) : State :=
  let choice := (s.e &&& s.f) ^^^ (~~~s.e &&& s.g)
  let majority := (s.a &&& s.b) ^^^ (s.a &&& s.c) ^^^ (s.b &&& s.c)
  let t := s.h + (rotate s.e 6 ^^^ rotate s.e 11 ^^^ rotate s.e 25) + choice + word
  let u := (rotate s.a 2 ^^^ rotate s.a 13 ^^^ rotate s.a 22) + majority
  { a := t + u, b := s.a, c := s.b, d := s.c, e := s.d + t, f := s.e, g := s.f, h := s.g }

def State.add (s t : State) : State :=
  { a := s.a + t.a, b := s.b + t.b, c := s.c + t.c, d := s.d + t.d,
    e := s.e + t.e, f := s.f + t.f, g := s.g + t.g, h := s.h + t.h }

def nextWord (latest : List UInt32) : UInt32 :=
  let word (i : Nat) := latest.getD i 0
  let x := word 14
  let y := word 1
  word 15 + (rotate x 7 ^^^ rotate x 18 ^^^ (x >>> 3)) + word 6 +
    (rotate y 17 ^^^ rotate y 19 ^^^ (y >>> 10))

def extend : (n : Nat) → List UInt32 → List UInt32
  | 0, words => words
  | n + 1, words => extend n (nextWord words :: words)

def bigEndian (bytes : List UInt8) : UInt32 := bytes.foldl (fun w b => w * 256 + b.toUInt32) 0

/-- Cuts a list into pieces of `size`; an incomplete rest is dropped. -/
def pieces {α : Type} (size : Nat) (count : Nat) (l : List α) : List (List α) :=
  match count with
  | 0 => []
  | count + 1 => l.take size :: pieces size count (l.drop size)

def compress (s : State) (block : List UInt8) : State :=
  let schedule := (extend 48 ((pieces 4 16 block).map bigEndian).reverse).reverse
  s.add ((schedule.zipWith (· + ·) roundConstants.toList).foldl State.step s)

def bytesOf (width : Nat) (n : Nat) : List UInt8 :=
  (List.range width).map fun i => UInt8.ofNat (n >>> (8 * (width - 1 - i)))

/-- Fills the message up to whole blocks, with its length in bits at the end. -/
def pad (message : List UInt8) : List UInt8 :=
  let n := message.length
  message ++ 0x80 :: List.replicate ((119 - n % 64) % 64) 0 ++ bytesOf 8 (8 * n)

def State.bytes (s : State) : Vector UInt8 32 :=
  let words := #v[s.a, s.b, s.c, s.d, s.e, s.f, s.g, s.h]
  Vector.ofFn fun i : Fin 32 =>
    (words[i.val / 4] >>> (8 * (3 - (i.val % 4)).toUInt32)).toUInt8

def hash (message : List UInt8) : Vector UInt8 32 :=
  let padded := pad message
  ((pieces 64 (padded.length / 64) padded).foldl compress initial).bytes

end ConsentGate.Sha256
