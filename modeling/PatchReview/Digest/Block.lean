import PatchReview.Text.Hex

/-! What the two message digests share: padding a message to whole blocks of sixty-four
bytes, cutting it into words, and writing a digest in hexadecimal. -/
namespace PatchReview.Digest

/-- The order of the bytes of a word. -/
inductive Endian where
  | little
  | big
  deriving DecidableEq, Repr

/-- The `width` low bytes of `n`, in the given order. -/
def Endian.bytesOf (order : Endian) (n : Nat) (width : Nat) : List UInt8 :=
  let little := (List.range width).map fun i => UInt8.ofNat (n / Nat.pow 256 i % 256)
  match order with
  | .little => little
  | .big => little.reverse

/-- The word that four bytes make. -/
def Endian.word (order : Endian) (a b c d : UInt8) : UInt32 :=
  match order with
  | .little => a.toUInt32 ||| (b.toUInt32 <<< 8) ||| (c.toUInt32 <<< 16) ||| (d.toUInt32 <<< 24)
  | .big => d.toUInt32 ||| (c.toUInt32 <<< 8) ||| (b.toUInt32 <<< 16) ||| (a.toUInt32 <<< 24)

/-- The words of a message, a last incomplete one left out. -/
def Endian.words (order : Endian) : List UInt8 → List UInt32
  | a :: b :: c :: d :: rest => order.word a b c d :: order.words rest
  | _ => []

/-- A one bit, zeros, and the length in bits fill the message up to whole blocks. -/
def padded (order : Endian) (message : List UInt8) : List UInt8 :=
  let zeros := (119 - message.length % 64) % 64
  message ++ 0x80 :: List.replicate zeros 0 ++ order.bytesOf (8 * message.length) 8

/-- Blocks of sixteen words. -/
def blocks (words : List UInt32) : List (List UInt32) :=
  if _h : 16 ≤ words.length then words.take 16 :: blocks (words.drop 16) else []
termination_by words.length
decreasing_by simp only [List.length_drop]; omega

/-- The word turned left by `n` bits, `0 < n < 32`. -/
def rotate (w : UInt32) (n : Nat) : UInt32 :=
  (w <<< UInt32.ofNat n) ||| (w >>> UInt32.ofNat (32 - n))

/-- Two hexadecimal digits a byte. -/
def hex (bytes : List UInt8) : String :=
  String.ofList (bytes.flatMap fun b => Text.hexDigits b.toNat 2)

end PatchReview.Digest
