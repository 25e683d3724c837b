import PatchReview.Text.StandIn

/-! UTF-8, read strictly or leniently, and written.

`decodeStep` reads one character or says what is wrong and how many bytes are at fault: one
byte that starts no character, the start of a character whose next byte does not fit, or a
character cut off by the end. Strict decoding stops at the first fault; lenient decoding
puts one replacement character in its place and goes on behind it. Only halves of surrogate
pairs cannot be written (`encodeError?`). In paths some of them stand for single bytes, which
are no text by themselves, and can be written (`pathError?`). -/
namespace PatchReview.Text.Utf8

/-- What is wrong where a character should be. -/
inductive Fault where
  | startByte
  | continuationByte
  | cutOff
  deriving DecidableEq, Repr

/-- A character and its size, or a fault and the number of bytes at fault. -/
inductive Step where
  | char (c : Char) (size : Nat)
  | fault (fault : Fault) (size : Nat)
  deriving Repr

/-- A continuation byte. -/
def isTail (b : Nat) : Bool := 0x80 ≤ b && b ≤ 0xBF

/-- Whether `b` may be the second byte after the lead byte `lead` of a longer character:
it keeps out overlong forms, surrogates and values above the last code point. -/
def fitsSecond (lead b : Nat) : Bool :=
  isTail b &&
    (lead != 0xE0 || 0xA0 ≤ b) && (lead != 0xED || b ≤ 0x9F) &&
    (lead != 0xF0 || 0x90 ≤ b) && (lead != 0xF4 || b ≤ 0x8F)

/-- The first character of `lead :: rest`. -/
def decodeStep (lead : Nat) (rest : List Nat) : Step :=
  if lead < 0x80 then .char (Char.ofNat lead) 1
  else if lead < 0xC2 || 0xF5 ≤ lead then .fault .startByte 1
  else if lead < 0xE0 then
    match rest with
    | [] => .fault .cutOff 1
    | b :: _ =>
      if isTail b then .char (Char.ofNat ((lead - 0xC0) * 0x40 + (b - 0x80))) 2
      else .fault .continuationByte 1
  else if lead < 0xF0 then
    match rest with
    | [] => .fault .cutOff 1
    | b :: rest =>
      if !fitsSecond lead b then .fault .continuationByte 1
      else
        match rest with
        | [] => .fault .cutOff 2
        | c :: _ =>
          if isTail c then
            .char (Char.ofNat ((lead - 0xE0) * 0x1000 + (b - 0x80) * 0x40 + (c - 0x80))) 3
          else .fault .continuationByte 2
  else
    match rest with
    | [] => .fault .cutOff 1
    | b :: rest =>
      if !fitsSecond lead b then .fault .continuationByte 1
      else
        match rest with
        | [] => .fault .cutOff 2
        | c :: rest =>
          if !isTail c then .fault .continuationByte 2
          else
            match rest with
            | [] => .fault .cutOff 3
            | d :: _ =>
              if isTail d then
                .char (Char.ofNat ((lead - 0xF0) * 0x40000 + (b - 0x80) * 0x1000 +
                  (c - 0x80) * 0x40 + (d - 0x80))) 4
              else .fault .continuationByte 3

/-- Where strict decoding stopped. -/
structure DecodeError where
  /-- Position of the first byte at fault. -/
  position : Nat
  /-- How many bytes are at fault. -/
  size : Nat
  /-- The first byte at fault. -/
  byte : Nat
  fault : Fault
  deriving DecidableEq, Repr

/-- Strict decoding, from `position` bytes into the text. -/
def decodeFrom (position : Nat) : List Nat → Except DecodeError (List Char)
  | [] => .ok []
  | b :: rest =>
    match decodeStep b rest with
    | .fault fault size => .error ⟨position, size, b, fault⟩
    | .char c size => (decodeFrom (position + size) (rest.drop (size - 1))).map (c :: ·)
termination_by bytes => bytes.length
decreasing_by simp only [List.length_drop, List.length_cons]; omega

/-- Strict decoding: the text, or the first fault. -/
def decode (bytes : List UInt8) : Except DecodeError (List Char) :=
  decodeFrom 0 (bytes.map (·.toNat))

/-- Lenient decoding of byte values: each fault becomes one replacement character. -/
def decodeLenientFrom : List Nat → List Char
  | [] => []
  | b :: rest =>
    match decodeStep b rest with
    | .fault _ size => Char.ofNat 0xFFFD :: decodeLenientFrom (rest.drop (size - 1))
    | .char c size => c :: decodeLenientFrom (rest.drop (size - 1))
termination_by bytes => bytes.length
decreasing_by all_goals simp only [List.length_drop, List.length_cons]; omega

/-- Lenient decoding: each fault becomes one replacement character. -/
def decodeLenient (bytes : List UInt8) : List Char := decodeLenientFrom (bytes.map (·.toNat))

/-- The bytes of one character. -/
def encodeChar (c : Char) : List UInt8 := String.utf8EncodeChar c

/-- The bytes of a text. -/
def encode (s : List Char) : List UInt8 := s.flatMap encodeChar

/-- Halves of surrogate pairs in a text that is to be written. -/
structure EncodeError where
  /-- Position of the first half. -/
  position : Nat
  /-- How many halves stand there in a row. -/
  count : Nat
  /-- The number of the first half. -/
  half : Nat
  deriving DecidableEq, Repr

section
variable [StandIns]

/-- The first halves that are not `writable` in a text, which starts at `position`. -/
def encodeErrorFrom (writable : Nat → Bool) (position : Nat) : List Char → Option EncodeError
  | [] => none
  | c :: s =>
    match (Surrogate.half? c).filter (!writable ·) with
    | some half =>
      some ⟨position, 1 + (s.takeWhile fun d => (Surrogate.half? d).isSome).length, half⟩
    | none => encodeErrorFrom writable (position + 1) s

/-- Why a text cannot be written, if it cannot. -/
def encodeError? (s : List Char) : Option EncodeError := encodeErrorFrom (fun _ => false) 0 s

/-- Whether a half stands for a byte in paths. -/
def isByteHalf (half : Nat) : Bool := 0xDC80 ≤ half && half < 0xDD00

/-- Why a path cannot be written, if it cannot. -/
def pathError? (s : List Char) : Option EncodeError := encodeErrorFrom isByteHalf 0 s

/-- How many bytes a path takes. -/
def pathLength (s : List Char) : Nat :=
  s.foldr (fun c n => (if (Surrogate.half? c).any isByteHalf then 1 else c.utf8Size) + n) 0

end

/-- How many bytes a text takes. -/
def byteLength (s : List Char) : Nat := s.foldr (fun c n => c.utf8Size + n) 0

end PatchReview.Text.Utf8
