/-!
# Text in UTF-8

Bytes are read as UTF-8 either strictly, where the first fault is reported, or leniently, where each
longest beginning of a character that breaks off becomes U+FFFD. Line ends of every convention are
read as one character.
-/

namespace StylePrune.Utf8

/-- What the bytes at a place are: a character of some bytes, or a fault that takes some bytes. -/
inductive Reading where
  | char (code : Nat) (length : Nat)
  | invalidStart
  | invalidContinuation (length : Nat)
  /-- The bytes end within a character. -/
  | unfinished

def isContinuation (b : UInt8) : Bool := 0x80 ≤ b && b < 0xC0

def low (b : UInt8) : Nat := b.toNat % 64

/-- The bytes that may follow a lead byte of three or four; the other continuation bytes would write
a character that is shorter, a surrogate, or past the last code point. -/
def mayFollow (lead second : UInt8) : Bool :=
  isContinuation second && !(lead = 0xE0 && second < 0xA0) && !(lead = 0xED && 0xA0 ≤ second) &&
    !(lead = 0xF0 && second < 0x90) && !(lead = 0xF4 && 0x90 ≤ second)

/-- The character, or fault, that starts with a lead byte and the bytes after it. -/
def read (lead : UInt8) (rest : List UInt8) : Reading :=
  if lead < 0x80 then .char lead.toNat 1
  else if lead < 0xC2 || 0xF4 < lead then .invalidStart
  else
    match rest with
    | [] => .unfinished
    | second :: rest =>
      if !mayFollow lead second then .invalidContinuation 1
      else if lead < 0xE0 then .char (lead.toNat % 32 * 64 + low second) 2
      else
        match rest with
        | [] => .unfinished
        | third :: rest =>
          if !isContinuation third then .invalidContinuation 2
          else if lead < 0xF0 then
            .char (lead.toNat % 16 * 4096 + low second * 64 + low third) 3
          else
            match rest with
            | [] => .unfinished
            | fourth :: _ =>
              if !isContinuation fourth then .invalidContinuation 3
              else
                .char (lead.toNat % 8 * 262144 + low second * 4096 + low third * 64 + low fourth) 4

/-- A fault of strict reading: the first byte of the faulty bytes, their place and their number. -/
structure Fault where
  byte : UInt8
  position : Nat
  length : Nat
  reason : String
deriving DecidableEq, Repr

def hexDigits (n : Nat) : String :=
  let digits := String.ofList (Nat.toDigits 16 n)
  if n < 16 then "0" ++ digits else digits

def Fault.message (f : Fault) : String :=
  if f.length = 1 then
    s!"'utf-8' codec can't decode byte 0x{hexDigits f.byte.toNat} " ++
      s!"in position {f.position}: {f.reason}"
  else
    s!"'utf-8' codec can't decode bytes in position {f.position}-{f.position + f.length - 1}: " ++
      f.reason

/-- How many bytes of a character or fault follow its first byte. -/
def Reading.after (left : Nat) : Reading → Nat
  | char _ length => length - 1
  | invalidStart => 0
  | invalidContinuation length => length - 1
  | unfinished => left

/-- Reads leniently, after dropping `skip` bytes that belong to the character before. -/
def decodeFrom (skip : Nat) : List UInt8 → List Char
  | [] => []
  | lead :: rest =>
    match skip with
    | skip + 1 => decodeFrom skip rest
    | 0 =>
      let reading := read lead rest
      let c := match reading with
        | .char code _ => Char.ofNat code
        | _ => '\uFFFD'
      c :: decodeFrom (reading.after rest.length) rest

/-- The text of some bytes, with U+FFFD for what is no character. -/
def decodeLossy (bytes : List UInt8) : List Char := decodeFrom 0 bytes

/-- Reads strictly; `position` counts the bytes before. -/
def decodeStrictFrom (position skip : Nat) : List UInt8 → Except Fault (List Char)
  | [] => .ok []
  | lead :: rest =>
    match skip with
    | skip + 1 => decodeStrictFrom (position + 1) skip rest
    | 0 =>
      match read lead rest with
      | .char code length =>
        (decodeStrictFrom (position + 1) (length - 1) rest).map (Char.ofNat code :: ·)
      | .invalidStart => .error ⟨lead, position, 1, "invalid start byte"⟩
      | .invalidContinuation length =>
        .error ⟨lead, position, length, "invalid continuation byte"⟩
      | .unfinished => .error ⟨lead, position, rest.length + 1, "unexpected end of data"⟩

/-- The text of some bytes, if they are UTF-8. -/
def decode (bytes : List UInt8) : Except Fault (List Char) := decodeStrictFrom 0 0 bytes

def encode (text : String) : List UInt8 := text.toUTF8.toList

/-- A text with a line feed for each line end. -/
def plainLines : List Char → List Char
  | '\r' :: '\n' :: rest => '\n' :: plainLines rest
  | '\r' :: rest => '\n' :: plainLines rest
  | c :: rest => c :: plainLines rest
  | [] => []

end StylePrune.Utf8
