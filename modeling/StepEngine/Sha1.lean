/-!
# SHA-1

* `Sha1.padded` : a message with the mark, the zeros and the length that fill its last block;
* `Sha1.compress` : one block of 64 bytes taken into the state;
* `Sha1.digest` : the twenty bytes of a message.
-/

namespace StepEngine.Sha1

/-- The five words of the state. -/
structure State where
  a : UInt32
  b : UInt32
  c : UInt32
  d : UInt32
  e : UInt32
  deriving DecidableEq

/-- The state before the first block. -/
def initial : State :=
  ⟨0x67452301, 0xEFCDAB89, 0x98BADCFE, 0x10325476, 0xC3D2E1F0⟩

def rotate (n : UInt32) (x : UInt32) : UInt32 :=
  (x <<< n) ||| (x >>> (32 - n))

def bytesOf : (width : Nat) → Nat → List UInt8
  | 0, _ => []
  | width + 1, n => bytesOf width (n / 256) ++ [.ofNat n]

/-- The number of bytes, the most significant first. -/
def numberOf (bytes : List UInt8) : Nat :=
  bytes.foldl (fun n b => 256 * n + b.toNat) 0

/-- A message with the mark, the zeros and the length that fill its last block. -/
def padded (message : List UInt8) : List UInt8 :=
  let length := message.length
  message ++ 0x80 :: List.replicate ((119 - length % 64) % 64) 0 ++ bytesOf 8 (8 * length)

def blocks (size : Nat) : (count : Nat) → List α → List (List α)
  | 0, _ => []
  | count + 1, items => items.take size :: blocks size count (items.drop size)

/-- The further words of a schedule, the last of `words` first. -/
def extend : (count : Nat) → (words : List UInt32) → List UInt32
  | 0, words => words
  | count + 1, words =>
    let word := fun i => words.getD i 0
    extend count (rotate 1 (word 2 ^^^ word 7 ^^^ word 13 ^^^ word 15) :: words)

def schedule (block : List UInt8) : List UInt32 :=
  let words := (blocks 4 16 block).map fun bytes => UInt32.ofNat (numberOf bytes)
  (extend 64 words.reverse).reverse

/-- The function and the constant of a round. -/
def round (i : Nat) (s : State) : UInt32 × UInt32 :=
  if i < 20 then ((s.b &&& s.c) ||| ((~~~ s.b) &&& s.d), 0x5A827999)
  else if i < 40 then (s.b ^^^ s.c ^^^ s.d, 0x6ED9EBA1)
  else if i < 60 then ((s.b &&& s.c) ||| (s.b &&& s.d) ||| (s.c &&& s.d), 0x8F1BBCDC)
  else (s.b ^^^ s.c ^^^ s.d, 0xCA62C1D6)

def rounds : (i : Nat) → List UInt32 → State → State
  | _, [], s => s
  | i, w :: words, s =>
    let (f, k) := round i s
    rounds (i + 1) words ⟨rotate 5 s.a + f + s.e + k + w, s.a, rotate 30 s.b, s.c, s.d⟩

def compress (s : State) (block : List UInt8) : State :=
  let t := rounds 0 (schedule block) s
  ⟨s.a + t.a, s.b + t.b, s.c + t.c, s.d + t.d, s.e + t.e⟩

def digest (message : List UInt8) : List UInt8 :=
  let bytes := padded message
  let s := (blocks 64 (bytes.length / 64) bytes).foldl compress initial
  [s.a, s.b, s.c, s.d, s.e].flatMap fun w => bytesOf 4 w.toNat

end StepEngine.Sha1
