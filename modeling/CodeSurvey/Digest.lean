/-
Message digests of byte strings: MD5, SHA-256 and the keyed digest built on it.
-/

namespace CodeSurvey.Digest

/-- The length of a message in bits as eight bytes, lowest first. -/
def lengthBytes (n : Nat) : List UInt8 := (List.range 8).map fun i => (n * 8 / Nat.pow 256 i % 256).toUInt8

/-- The bytes that fill a message of `n` bytes up to eight bytes before the end of a block: a one bit and zeros. -/
def filler (n : Nat) : List UInt8 := 0x80 :: List.replicate ((119 - n % 64) % 64) 0

def hexByte (b : UInt8) : List Char := [(b.toNat / 16).digitChar, (b.toNat % 16).digitChar]

def hexText (l : List UInt8) : String := String.ofList (l.flatMap hexByte)

def bigEndian (l : List UInt8) : Nat := l.foldl (fun n b => n * 256 + b.toNat) 0

def utf8 (s : String) : List UInt8 := s.toUTF8.toList

end CodeSurvey.Digest

/-! ## MD5 -/

namespace CodeSurvey.Digest.Md5

structure State where
  a : UInt32
  b : UInt32
  c : UInt32
  d : UInt32

def initial : State := ⟨0x67452301, 0xefcdab89, 0x98badcfe, 0x10325476⟩

/-- The additive constants of the 64 steps: the fractional parts of sines. -/
def sines : Array UInt32 := #[
  0xd76aa478, 0xe8c7b756, 0x242070db, 0xc1bdceee, 0xf57c0faf, 0x4787c62a, 0xa8304613, 0xfd469501,
  0x698098d8, 0x8b44f7af, 0xffff5bb1, 0x895cd7be, 0x6b901122, 0xfd987193, 0xa679438e, 0x49b40821,
  0xf61e2562, 0xc040b340, 0x265e5a51, 0xe9b6c7aa, 0xd62f105d, 0x02441453, 0xd8a1e681, 0xe7d3fbc8,
  0x21e1cde6, 0xc33707d6, 0xf4d50d87, 0x455a14ed, 0xa9e3e905, 0xfcefa3f8, 0x676f02d9, 0x8d2a4c8a,
  0xfffa3942, 0x8771f681, 0x6d9d6122, 0xfde5380c, 0xa4beea44, 0x4bdecfa9, 0xf6bb4b60, 0xbebfbc70,
  0x289b7ec6, 0xeaa127fa, 0xd4ef3085, 0x04881d05, 0xd9d4d039, 0xe6db99e5, 0x1fa27cf8, 0xc4ac5665,
  0xf4292244, 0x432aff97, 0xab9423a7, 0xfc93a039, 0x655b59c3, 0x8f0ccc92, 0xffeff47d, 0x85845dd1,
  0x6fa87e4f, 0xfe2ce6e0, 0xa3014314, 0x4e0811a1, 0xf7537e82, 0xbd3af235, 0x2ad7d2bb, 0xeb86d391]

def rotations : Array UInt32 := #[7, 12, 17, 22, 5, 9, 14, 20, 4, 11, 16, 23, 6, 10, 15, 21]

def rotate (x n : UInt32) : UInt32 := (x <<< n) ||| (x >>> (32 - n))

/-- The steps from number `64 - fuel` on, over the sixteen words of a block. -/
def steps (block : Array UInt32) : (fuel : Nat) → (a b c d : UInt32) → State
  | 0, a, b, c, d => ⟨a, b, c, d⟩
  | fuel + 1, a, b, c, d =>
    let i := 63 - fuel
    let round := i / 16
    let f := match round with
      | 0 => (b &&& c) ||| (~~~b &&& d)
      | 1 => (d &&& b) ||| (~~~d &&& c)
      | 2 => b ^^^ c ^^^ d
      | _ => c ^^^ (b ||| ~~~d)
    let g := match round with
      | 0 => i
      | 1 => (5 * i + 1) % 16
      | 2 => (3 * i + 5) % 16
      | _ => (7 * i) % 16
    let sum := a + f + sines.getD i 0 + block.getD g 0
    steps block fuel d (b + rotate sum (rotations.getD (4 * round + i % 4) 0)) b c

def word (x y z w : UInt8) : UInt32 :=
  x.toUInt32 ||| (y.toUInt32 <<< 8) ||| (z.toUInt32 <<< 16) ||| (w.toUInt32 <<< 24)

def words : List UInt8 → Array UInt32 → Array UInt32
  | x :: y :: z :: w :: r, acc => words r (acc.push (word x y z w))
  | _, acc => acc

def absorb (all : Array UInt32) : (blocks : Nat) → (i : Nat) → State → State
  | 0, _, s => s
  | n + 1, i, s =>
    let t := steps (all.extract (16 * i) (16 * i + 16)) 64 s.a s.b s.c s.d
    absorb all n (i + 1) ⟨s.a + t.a, s.b + t.b, s.c + t.c, s.d + t.d⟩

def wordBytes (x : UInt32) : List UInt8 :=
  [x.toUInt8, (x >>> 8).toUInt8, (x >>> 16).toUInt8, (x >>> 24).toUInt8]

def digest (m : List UInt8) : List UInt8 :=
  let n := m.length
  let all := words (m ++ filler n ++ lengthBytes n) #[]
  let s := absorb all (all.size / 16) 0 initial
  wordBytes s.a ++ wordBytes s.b ++ wordBytes s.c ++ wordBytes s.d

def hexOfText (s : String) : String := hexText (digest (utf8 s))

def natOfText (s : String) : Nat := bigEndian (digest (utf8 s))

end CodeSurvey.Digest.Md5

/-! ## SHA-256 -/

namespace CodeSurvey.Digest.Sha256

structure State where
  a : UInt32
  b : UInt32
  c : UInt32
  d : UInt32
  e : UInt32
  f : UInt32
  g : UInt32
  h : UInt32

/-- The words before the first block: fractional parts of square roots of primes. -/
def initial : State :=
  ⟨0x6a09e667, 0xbb67ae85, 0x3c6ef372, 0xa54ff53a,
    0x510e527f, 0x9b05688c, 0x1f83d9ab, 0x5be0cd19⟩

/-- The additive constants of the 64 steps: fractional parts of cube roots of primes. -/
def roots : Array UInt32 := #[
  0x428a2f98, 0x71374491, 0xb5c0fbcf, 0xe9b5dba5, 0x3956c25b, 0x59f111f1, 0x923f82a4, 0xab1c5ed5,
  0xd807aa98, 0x12835b01, 0x243185be, 0x550c7dc3, 0x72be5d74, 0x80deb1fe, 0x9bdc06a7, 0xc19bf174,
  0xe49b69c1, 0xefbe4786, 0x0fc19dc6, 0x240ca1cc, 0x2de92c6f, 0x4a7484aa, 0x5cb0a9dc, 0x76f988da,
  0x983e5152, 0xa831c66d, 0xb00327c8, 0xbf597fc7, 0xc6e00bf3, 0xd5a79147, 0x06ca6351, 0x14292967,
  0x27b70a85, 0x2e1b2138, 0x4d2c6dfc, 0x53380d13, 0x650a7354, 0x766a0abb, 0x81c2c92e, 0x92722c85,
  0xa2bfe8a1, 0xa81a664b, 0xc24b8b70, 0xc76c51a3, 0xd192e819, 0xd6990624, 0xf40e3585, 0x106aa070,
  0x19a4c116, 0x1e376c08, 0x2748774c, 0x34b0bcb5, 0x391c0cb3, 0x4ed8aa4a, 0x5b9cca4f, 0x682e6ff3,
  0x748f82ee, 0x78a5636f, 0x84c87814, 0x8cc70208, 0x90befffa, 0xa4506ceb, 0xbef9a3f7, 0xc67178f2]

def rotate (x n : UInt32) : UInt32 := (x >>> n) ||| (x <<< (32 - n))

def scheduleWord (w : Array UInt32) (i : Nat) : UInt32 :=
  let x := w.getD (i - 15) 0
  let y := w.getD (i - 2) 0
  let s0 := rotate x 7 ^^^ rotate x 18 ^^^ (x >>> 3)
  let s1 := rotate y 17 ^^^ rotate y 19 ^^^ (y >>> 10)
  w.getD (i - 16) 0 + s0 + w.getD (i - 7) 0 + s1

def schedule (block : Array UInt32) : Array UInt32 :=
  (List.range 48).foldl (fun w i => w.push (scheduleWord w (i + 16))) block

def step (w : Array UInt32) (s : State) (i : Nat) : State :=
  let s1 := rotate s.e 6 ^^^ rotate s.e 11 ^^^ rotate s.e 25
  let ch := (s.e &&& s.f) ^^^ (~~~s.e &&& s.g)
  let t1 := s.h + s1 + ch + roots.getD i 0 + w.getD i 0
  let s0 := rotate s.a 2 ^^^ rotate s.a 13 ^^^ rotate s.a 22
  let maj := (s.a &&& s.b) ^^^ (s.a &&& s.c) ^^^ (s.b &&& s.c)
  ⟨t1 + s0 + maj, s.a, s.b, s.c, s.d + t1, s.e, s.f, s.g⟩

def absorb (s : State) (block : Array UInt32) : State :=
  let w := schedule block
  let t := (List.range 64).foldl (step w) s
  ⟨s.a + t.a, s.b + t.b, s.c + t.c, s.d + t.d, s.e + t.e, s.f + t.f, s.g + t.g, s.h + t.h⟩

def word (x y z w : UInt8) : UInt32 :=
  (x.toUInt32 <<< 24) ||| (y.toUInt32 <<< 16) ||| (z.toUInt32 <<< 8) ||| w.toUInt32

def words : List UInt8 → Array UInt32 → Array UInt32
  | x :: y :: z :: w :: r, acc => words r (acc.push (word x y z w))
  | _, acc => acc

def wordBytes (x : UInt32) : List UInt8 :=
  [(x >>> 24).toUInt8, (x >>> 16).toUInt8, (x >>> 8).toUInt8, x.toUInt8]

def digest (m : List UInt8) : List UInt8 :=
  let n := m.length
  let all := words (m ++ filler n ++ (lengthBytes n).reverse) #[]
  let s := (List.range (all.size / 16)).foldl (fun s i => absorb s (all.extract (16 * i) (16 * i + 16))) initial
  [s.a, s.b, s.c, s.d, s.e, s.f, s.g, s.h].flatMap wordBytes

/-- The keyed digest of a message: two nested digests under the key padded to a block. -/
def hmac (key m : List UInt8) : List UInt8 :=
  let key := if key.length > 64 then digest key else key
  let key := key ++ List.replicate (64 - key.length) 0
  digest (key.map (· ^^^ 0x5c) ++ digest (key.map (· ^^^ 0x36) ++ m))

end CodeSurvey.Digest.Sha256
