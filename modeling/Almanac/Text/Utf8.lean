/-!
# UTF-8

The bytes of characters and the characters of bytes. Bytes that belong to no
character are read as replacement characters, one for each longest piece that could
begin a character.
-/

namespace Almanac.Text.Utf8

/-! ## From characters to bytes -/

/-- A byte behind the first that holds six bits. -/
def trail (n : Nat) : UInt8 := (0x80 + n % 64).toUInt8

/-- The bytes of a character. -/
def encodeChar (c : Char) : List UInt8 :=
  let n := c.toNat
  if n < 0x80 then [n.toUInt8]
  else if n < 0x800 then [(0xc0 + n / 64).toUInt8, trail n]
  else if n < 0x10000 then [(0xe0 + n / 4096).toUInt8, trail (n / 64), trail n]
  else [(0xf0 + n / 262144).toUInt8, trail (n / 4096), trail (n / 64), trail n]

/-- The bytes of characters. -/
def encode (cs : List Char) : List UInt8 := cs.flatMap encodeChar

/-! ## From bytes to characters -/

/-- What stands for bytes that belong to no character. -/
def replacement : Char := '\ufffd'

/-- Whether a byte can stand behind the first. -/
def isTrail (b : UInt8) : Bool := 0x80 ≤ b && b ≤ 0xbf

/-- Whether a byte can stand behind the first byte `a` of three or four. -/
def isSecond (a b : UInt8) : Bool :=
  if a = 0xe0 then 0xa0 ≤ b && b ≤ 0xbf
  else if a = 0xed then 0x80 ≤ b && b ≤ 0x9f
  else if a = 0xf0 then 0x90 ≤ b && b ≤ 0xbf
  else if a = 0xf4 then 0x80 ≤ b && b ≤ 0x8f
  else isTrail b

/-- The bits of a byte behind the first. -/
def trailBits (b : UInt8) : Nat := b.toNat - 0x80

/-- The characters of bytes. -/
def decode : List UInt8 → List Char
  | [] => []
  | a :: rest =>
    if a < 0x80 then Char.ofNat a.toNat :: decode rest
    else if 0xc2 ≤ a && a ≤ 0xdf then
      match rest with
      | b :: rest' =>
        if isTrail b then Char.ofNat ((a.toNat - 0xc0) * 64 + trailBits b) :: decode rest'
        else replacement :: decode (b :: rest')
      | [] => [replacement]
    else if 0xe0 ≤ a && a ≤ 0xef then
      match rest with
      | b :: rest' =>
        if isSecond a b then
          match rest' with
          | c :: rest'' =>
            if isTrail c then
              Char.ofNat ((a.toNat - 0xe0) * 4096 + trailBits b * 64 + trailBits c) ::
                decode rest''
            else replacement :: decode (c :: rest'')
          | [] => [replacement]
        else replacement :: decode (b :: rest')
      | [] => [replacement]
    else if 0xf0 ≤ a && a ≤ 0xf4 then
      match rest with
      | b :: rest' =>
        if isSecond a b then
          match rest' with
          | c :: rest'' =>
            if isTrail c then
              match rest'' with
              | d :: rest''' =>
                if isTrail d then
                  Char.ofNat ((a.toNat - 0xf0) * 262144 + trailBits b * 4096 +
                    trailBits c * 64 + trailBits d) :: decode rest'''
                else replacement :: decode (d :: rest''')
              | [] => [replacement]
            else replacement :: decode (c :: rest'')
          | [] => [replacement]
        else replacement :: decode (b :: rest')
      | [] => [replacement]
    else replacement :: decode rest

/-- The characters of bytes that all belong to characters. -/
def decode? (bytes : List UInt8) : Option (List Char) :=
  let cs := decode bytes
  if encode cs = bytes then some cs else none

end Almanac.Text.Utf8
