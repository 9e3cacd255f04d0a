/-! Reading bytes as text. A byte sequence is cut into characters and flaws, where a flaw is a maximal piece
that starts a character but cannot be completed, or a single byte that starts none. Lossy reading puts
U+FFFD in the place of each flaw. -/

namespace MediaRelay.Text

/-- A continuation byte. -/
def isTail (b : UInt8) : Bool := 0x80 ≤ b && b ≤ 0xBF

/-- The second bytes that the lead byte of a three-byte character allows. -/
def secondOf3 (lead b : UInt8) : Bool :=
  if lead = 0xE0 then 0xA0 ≤ b && b ≤ 0xBF
  else if lead = 0xED then 0x80 ≤ b && b ≤ 0x9F
  else isTail b

/-- The second bytes that the lead byte of a four-byte character allows. -/
def secondOf4 (lead b : UInt8) : Bool :=
  if lead = 0xF0 then 0x90 ≤ b && b ≤ 0xBF
  else if lead = 0xF4 then 0x80 ≤ b && b ≤ 0x8F
  else isTail b

def low6 (b : UInt8) : Nat := b.toNat % 64

/-- Characters, with `none` for a flaw; `acc` holds what was read before, last first. -/
def readUtf8 (acc : List (Option Char)) : List UInt8 → List (Option Char)
  | [] => acc.reverse
  | a :: rest =>
    if a < 0x80 then readUtf8 (some (Char.ofNat a.toNat) :: acc) rest
    else if 0xC2 ≤ a && a ≤ 0xDF then
      match rest with
      | b :: rest' =>
        if isTail b then readUtf8 (some (Char.ofNat ((a.toNat % 32) * 64 + low6 b)) :: acc) rest'
        else readUtf8 (none :: acc) (b :: rest')
      | [] => readUtf8 (none :: acc) []
    else if 0xE0 ≤ a && a ≤ 0xEF then
      match rest with
      | b :: rest' =>
        if secondOf3 a b then
          match rest' with
          | c :: rest'' =>
            if isTail c then
              readUtf8 (some (Char.ofNat (((a.toNat % 16) * 64 + low6 b) * 64 + low6 c)) :: acc) rest''
            else readUtf8 (none :: acc) (c :: rest'')
          | [] => readUtf8 (none :: acc) []
        else readUtf8 (none :: acc) (b :: rest')
      | [] => readUtf8 (none :: acc) []
    else if 0xF0 ≤ a && a ≤ 0xF4 then
      match rest with
      | b :: rest' =>
        if secondOf4 a b then
          match rest' with
          | c :: rest'' =>
            if isTail c then
              match rest'' with
              | d :: rest''' =>
                if isTail d then
                  readUtf8 (some (Char.ofNat ((((a.toNat % 8) * 64 + low6 b) * 64 + low6 c) * 64 + low6 d)) :: acc)
                    rest'''
                else readUtf8 (none :: acc) (d :: rest''')
              | [] => readUtf8 (none :: acc) []
            else readUtf8 (none :: acc) (c :: rest'')
          | [] => readUtf8 (none :: acc) []
        else readUtf8 (none :: acc) (b :: rest')
      | [] => readUtf8 (none :: acc) []
    else readUtf8 (none :: acc) rest
termination_by bytes => bytes.length

/-- The characters and flaws of a byte sequence. Well-formed bytes are read as they are. -/
def charsOfBytes (bytes : ByteArray) : List (Option Char) :=
  match String.fromUTF8? bytes with
  | some s => s.toList.map some
  | none => readUtf8 [] bytes.toList

end MediaRelay.Text

namespace MediaRelay

def textOfBytes (bytes : ByteArray) : String :=
  match String.fromUTF8? bytes with
  | some s => s
  | none => String.ofList ((Text.readUtf8 [] bytes.toList).map (·.getD '\uFFFD'))

end MediaRelay
