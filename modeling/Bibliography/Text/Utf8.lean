import Bibliography.Text.Quoted

/-!
# UTF-8

Decoding of byte sequences. A sequence that is not well formed is refused at its first fault, with
the positions of the bytes concerned and one of three reasons: a byte that begins no character, a
byte that does not continue the character before it, or a character cut off by the end.
-/

namespace Bibliography.Text

/-- Why a byte sequence is refused. -/
inductive Utf8Reason where
  | invalidStart
  | invalidContinuation
  | unexpectedEnd
  deriving DecidableEq, Repr

/-- A fault in a byte sequence: the bytes concerned begin at `position`. -/
structure Utf8Fault where
  position : Nat
  bytes : List UInt8
  reason : Utf8Reason
  deriving DecidableEq, Repr

/-- The wording of a reason. -/
def Utf8Reason.text : Utf8Reason → String
  | .invalidStart => "invalid start byte"
  | .invalidContinuation => "invalid continuation byte"
  | .unexpectedEnd => "unexpected end of data"

/-- The message of a fault; a single byte is shown, several are given by their positions. -/
def Utf8Fault.message (f : Utf8Fault) : String :=
  let place := match f.bytes with
    | [b] => "byte 0x" ++ String.ofList (hexDigits 2 b.toNat) ++ " in position " ++ toString f.position
    | bs => "bytes in position " ++ toString f.position ++ "-"
        ++ toString (f.position + bs.length - 1)
  "'utf-8' codec can't decode " ++ place ++ ": " ++ f.reason.text

/-- The number of continuation bytes that a first byte announces, with the bounds of the first of
them. -/
def continuation? (b : UInt8) : Option (Nat × UInt8 × UInt8) :=
  if 0xC2 ≤ b ∧ b ≤ 0xDF then some (1, 0x80, 0xBF)
  else if b = 0xE0 then some (2, 0xA0, 0xBF)
  else if b = 0xED then some (2, 0x80, 0x9F)
  else if 0xE1 ≤ b ∧ b ≤ 0xEF then some (2, 0x80, 0xBF)
  else if b = 0xF0 then some (3, 0x90, 0xBF)
  else if b = 0xF4 then some (3, 0x80, 0x8F)
  else if 0xF1 ≤ b ∧ b ≤ 0xF3 then some (3, 0x80, 0xBF)
  else none

/-- The number of leading bytes, at most `count`, that lie between the bounds; only the first of
them has bounds of its own. -/
def matching : Nat → UInt8 → UInt8 → List UInt8 → Nat
  | 0, _, _, _ => 0
  | _, _, _, [] => 0
  | count + 1, low, high, b :: bs =>
    if low ≤ b ∧ b ≤ high then matching count 0x80 0xBF bs + 1 else 0

/-- The code point that a first byte and its continuation bytes stand for. -/
def codePoint (first : UInt8) (rest : List UInt8) : Nat :=
  let lead := match rest.length with
    | 1 => first.toNat % 0x20
    | 2 => first.toNat % 0x10
    | _ => first.toNat % 0x08
  rest.foldl (fun n b => n * 0x40 + b.toNat % 0x40) lead

/-- Decodes the bytes that begin at `position`. -/
def decodeFrom (position : Nat) : List UInt8 → Except Utf8Fault (List Char)
  | [] => .ok []
  | b :: bs =>
    if b < 0x80 then (decodeFrom (position + 1) bs).map (Char.ofNat b.toNat :: ·)
    else match continuation? b with
      | none => .error ⟨position, [b], .invalidStart⟩
      | some (count, low, high) =>
        let found := matching count low high bs
        if found = count then
          (decodeFrom (position + count + 1) (bs.drop count)).map
            (Char.ofNat (codePoint b (bs.take count)) :: ·)
        else if bs.length = found then .error ⟨position, b :: bs, .unexpectedEnd⟩
        else .error ⟨position, b :: bs.take found, .invalidContinuation⟩
  termination_by bs => bs.length
  decreasing_by
    · exact Nat.lt_succ_self _
    · exact Nat.lt_succ_of_le (List.length_drop ▸ Nat.sub_le _ _)

/-- Decodes a byte sequence. -/
def decodeUtf8 (bytes : List UInt8) : Except Utf8Fault (List Char) := decodeFrom 0 bytes

end Bibliography.Text
