import PatchReview.Digest.Block

/-! The SHA-1 message digest, the fingerprint of a published finding. -/
namespace PatchReview.Digest.Sha1

/-- The five words that a block changes. -/
structure State where
  a : UInt32
  b : UInt32
  c : UInt32
  d : UInt32
  e : UInt32
  deriving DecidableEq, Repr

def initial : State := ⟨0x67452301, 0xEFCDAB89, 0x98BADCFE, 0x10325476, 0xC3D2E1F0⟩

/-- The block's words and the words that follow from them, `count` more of them. -/
def schedule (words : Array UInt32) : Nat → Array UInt32
  | 0 => words
  | count + 1 =>
    let n := words.size
    let back (k : Nat) : UInt32 := words.getD (n - k) 0
    schedule (words.push (rotate (back 3 ^^^ back 8 ^^^ back 14 ^^^ back 16) 1)) count

/-- How the words are mixed at step `i`, and the constant that is added. -/
def mix (i : Nat) (s : State) : UInt32 × UInt32 :=
  if i < 20 then ((s.b &&& s.c) ||| (~~~s.b &&& s.d), 0x5A827999)
  else if i < 40 then (s.b ^^^ s.c ^^^ s.d, 0x6ED9EBA1)
  else if i < 60 then ((s.b &&& s.c) ||| (s.b &&& s.d) ||| (s.c &&& s.d), 0x8F1BBCDC)
  else (s.b ^^^ s.c ^^^ s.d, 0xCA62C1D6)

def step (s : State) (i : Nat) (word : UInt32) : State :=
  let (mixed, constant) := mix i s
  ⟨rotate s.a 5 + mixed + s.e + constant + word, s.a, rotate s.b 30, s.c, s.d⟩

/-- All eighty steps on a block, added to the state before them. -/
def compress (s : State) (block : List UInt32) : State :=
  let words := (schedule block.toArray 64).toList
  let t := words.zipIdx.foldl (fun t (word, i) => step t i word) s
  ⟨s.a + t.a, s.b + t.b, s.c + t.c, s.d + t.d, s.e + t.e⟩

/-- The digest of a message, as twenty bytes. -/
def digest (message : List UInt8) : List UInt8 :=
  let s := (blocks (Endian.big.words (padded .big message))).foldl compress initial
  [s.a, s.b, s.c, s.d, s.e].flatMap fun w => Endian.big.bytesOf w.toNat 4

end PatchReview.Digest.Sha1
