/-!
# UTF-8

Bytes of a text, and texts from bytes.  Bytes that are no text show up one by one as `none`: one
for each longest run of bytes that begins a character and breaks off.  A text is cut at a place that
is counted in bytes, but between characters only.
-/

namespace Worktop.Text.Utf8

/-- A character of which some bytes have been read: how many are still owed, the bounds of the
next one, and the bits so far. -/
structure Pending where
  owed : Nat
  low : Nat := 0x80
  high : Nat := 0xBF
  bits : Nat
  deriving DecidableEq, Repr

/-- What the first byte of a character says. -/
inductive Lead where
  | whole (c : Char)
  | opens (p : Pending)
  | stray
  deriving DecidableEq, Repr

/-- Reads the first byte of a character. -/
def lead (b : UInt8) : Lead :=
  let n := b.toNat
  if n < 0x80 then .whole (Char.ofNat n)
  else if n < 0xC2 then .stray
  else if n < 0xE0 then .opens { owed := 1, bits := n - 0xC0 }
  else if n = 0xE0 then .opens { owed := 2, low := 0xA0, bits := 0 }
  else if n = 0xED then .opens { owed := 2, high := 0x9F, bits := 0xD }
  else if n < 0xF0 then .opens { owed := 2, bits := n - 0xE0 }
  else if n = 0xF0 then .opens { owed := 3, low := 0x90, bits := 0 }
  else if n < 0xF4 then .opens { owed := 3, bits := n - 0xF0 }
  else if n = 0xF4 then .opens { owed := 3, high := 0x8F, bits := 4 }
  else .stray

/-- The characters of some bytes, where `open?` is the character begun before them. -/
def decodeFrom (open? : Option Pending) : List UInt8 → List (Option Char)
  | [] => if open?.isSome then [none] else []
  | b :: bs =>
    let fresh :=
      match lead b with
      | .whole c => some c :: decodeFrom none bs
      | .opens p => decodeFrom (some p) bs
      | .stray => none :: decodeFrom none bs
    match open? with
    | none => fresh
    | some p =>
      if p.low ≤ b.toNat ∧ b.toNat ≤ p.high then
        let bits := p.bits * 64 + (b.toNat - 0x80)
        if p.owed ≤ 1 then some (Char.ofNat bits) :: decodeFrom none bs
        else decodeFrom (some { owed := p.owed - 1, bits }) bs
      else none :: fresh

/-- The characters of some bytes, `none` where they are no text. -/
def decode (bs : List UInt8) : List (Option Char) :=
  decodeFrom none bs

/-- The text that the bytes spell, if they spell one. -/
def text? (bs : List UInt8) : Option String :=
  ((decode bs).mapM id).map String.ofList

/-- The text of the bytes, with U+FFFD for what is no text. -/
def lossyText (bs : List UInt8) : String :=
  String.ofList ((decode bs).map fun c? => c?.getD '\uFFFD')

/-- The bytes of a text. -/
def encode (s : String) : List UInt8 :=
  s.toList.flatMap String.utf8EncodeChar

/-- How many bytes a text takes. -/
def size (cs : List Char) : Nat :=
  cs.foldr (fun c n => c.utf8Size + n) 0

/-- Whether a byte goes on with a character that a byte before it begins. -/
def continues (b : UInt8) : Bool :=
  0x80 ≤ b.toNat && b.toNat < 0xC0

/-- Whether no character reaches across the place behind so many bytes. -/
def isBoundary (bs : List UInt8) (place : Nat) : Bool :=
  place = 0 || place = bs.length || bs[place]?.any (!continues ·)

/-- The last boundary up to a place, looked for from there backwards, unless there is none. -/
def lastBoundary? (bs : List UInt8) : Nat → Option Nat
  | 0 => if isBoundary bs 0 then some 0 else none
  | place + 1 => if isBoundary bs (place + 1) then some (place + 1) else lastBoundary? bs place

/-- The characters in front of a place, unless it is amid a character or behind the text. -/
def slice? : Nat → List Char → Option (List Char)
  | 0, _ => some []
  | _ + 1, [] => none
  | place + 1, c :: cs =>
    if c.utf8Size ≤ place + 1 then (slice? (place + 1 - c.utf8Size) cs).map (c :: ·) else none

/-- A text cut off at the last boundary within `limit` bytes. -/
def cut? (limit : Nat) (s : String) : Option String := do
  let place ← lastBoundary? (encode s) limit
  (slice? place s.toList).map String.ofList

end Worktop.Text.Utf8
