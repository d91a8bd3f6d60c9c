/-!
# Decoding UTF-8

`Utf8.decode` reads bytes as UTF-8 and stops at the first fault, which it places exactly: a byte that
cannot start a character, a character broken off by a byte that does not continue it, or the end of
the data inside a character.
-/

namespace EffectGraph
namespace Utf8

/-- What is wrong at a place in the bytes. -/
inductive Reason where
  | invalidStart
  | invalidContinuation
  | unexpectedEnd

/-- The wording of a reason. -/
def Reason.text : Reason → String
  | .invalidStart => "invalid start byte"
  | .invalidContinuation => "invalid continuation byte"
  | .unexpectedEnd => "unexpected end of data"

/-- A fault: the first byte of the broken character, where it stands, how many bytes belong to it. -/
structure Malformed where
  byte : UInt8
  position : Nat
  length : Nat
  reason : Reason

/-- A byte in two hexadecimal digits. -/
def hexByte (b : UInt8) : String :=
  let n := b.toNat
  String.ofList [Nat.digitChar (n / 16), Nat.digitChar (n % 16)]

/-- The message for a fault. -/
def Malformed.message (m : Malformed) : String :=
  let place :=
    if m.length == 1 then s!"byte 0x{hexByte m.byte} in position {m.position}"
    else s!"bytes in position {m.position}-{m.position + m.length - 1}"
  "'utf-8' codec can't decode " ++ place ++ ": " ++ m.reason.text

/-- Does this byte continue a character? -/
def continues (b : UInt8) : Bool := 0x80 ≤ b && b < 0xC0

/-- May `second` follow `lead`?  Overlong forms, surrogates and points past the last one are not
characters. -/
def allowsSecond (lead second : UInt8) : Bool :=
  continues second &&
    !(lead == 0xE0 && second < 0xA0) && !(lead == 0xED && second ≥ 0xA0) &&
    !(lead == 0xF0 && second < 0x90) && !(lead == 0xF4 && second ≥ 0x90)

/-- How many bytes a character has that starts with `lead`; none if no character does. -/
def width? (lead : UInt8) : Option Nat :=
  if lead < 0x80 then some 1
  else if lead < 0xC2 then none
  else if lead < 0xE0 then some 2
  else if lead < 0xF0 then some 3
  else if lead < 0xF5 then some 4
  else none

/-- The bits of a lead byte that belong to the code point. -/
def leadBits (lead : UInt8) (width : Nat) : Nat :=
  match width with
  | 1 => lead.toNat
  | 2 => lead.toNat % 32
  | 3 => lead.toNat % 16
  | _ => lead.toNat % 8

/-- The continuation bytes of a character, `needed` of them still missing and `seen` bytes read. -/
def tail (position : Nat) (lead : UInt8) :
    Nat → Nat → Nat → List UInt8 → Except Malformed (Nat × List UInt8)
  | 0, _, point, rest => .ok (point, rest)
  | _ + 1, seen, _, [] => .error ⟨lead, position, seen, .unexpectedEnd⟩
  | needed + 1, seen, point, b :: rest =>
    if (if seen == 1 then allowsSecond lead b else continues b) then
      tail position lead needed (seen + 1) (point * 64 + b.toNat % 64) rest
    else .error ⟨lead, position, seen, .invalidContinuation⟩

/-- The characters from `position` on, the ones before collected in `done`, last first.  Each round
takes at least one byte, so `fuel` is the number of bytes. -/
def decodeFrom : Nat → Nat → List Char → List UInt8 → Except Malformed (List Char)
  | _, _, done, [] => .ok done.reverse
  | 0, _, done, _ => .ok done.reverse
  | fuel + 1, position, done, lead :: rest =>
    match width? lead with
    | none => .error ⟨lead, position, 1, .invalidStart⟩
    | some width =>
      match tail position lead (width - 1) 1 (leadBits lead width) rest with
      | .error e => .error e
      | .ok (point, more) => decodeFrom fuel (position + width) (Char.ofNat point :: done) more

/-- **The text that bytes encode,** or the first fault in them. -/
def decode (bytes : List UInt8) : Except Malformed (List Char) :=
  decodeFrom bytes.length 0 [] bytes

end Utf8
end EffectGraph
