/-!
# Units of a text

A text that is read from outside consists of units: characters, and halves of surrogate pairs that
an escape or a file name holds without the other half. No character is such a half, so a text holds
one as two characters: a mark, and the private-use character that lies `0x100000` further on than
the half. The mark itself is held as two of it. Whatever is written of a text is written of its
units.

## Main definitions

* `Text.held`: the characters that hold a unit.
* `Text.ofUnits`, `Text.units`: between a text and its units.
* `Text.bytes?`: a text as the bytes of a file name or of a file.
-/
namespace IntegerProgram.Text

/-- Whether a unit is half of a surrogate pair. -/
def isHalf (unit : Nat) : Bool := 0xD800 ≤ unit && unit ≤ 0xDFFF

/-- The code point of the mark, which is the last there is and stands for no character. -/
def markPoint : Nat := 0x10FFFF

/-- The character in front of what is held for a half. -/
def mark : Char := Char.ofNat markPoint

/-- The characters that hold a unit. -/
def held (unit : Nat) : List Char :=
  if isHalf unit then [mark, Char.ofNat (0x100000 + unit)]
  else if unit = markPoint then [mark, mark]
  else [Char.ofNat unit]

/-- The units that characters hold. -/
def unitsOf : List Char → List Nat
  | [] => []
  | [c] => [c.toNat]
  | c :: d :: rest =>
    if c = mark then (if d = mark then markPoint else d.toNat - 0x100000) :: unitsOf rest
    else c.toNat :: unitsOf (d :: rest)

/-- The text of units. -/
def ofUnits (units : List Nat) : String := String.ofList (units.flatMap held)

/-- The units of a text. -/
def units (s : String) : List Nat := unitsOf s.toList

/-- The text of characters, none of which stands for anything but itself. -/
def ofChars (s : String) : String := ofUnits (s.toList.map Char.toNat)

/-- The characters of a text, of which a half is none. -/
def toChars (s : String) : String := String.ofList ((units s).map Char.ofNat)

/-- The texts of the single units of a text. -/
def letters (s : String) : List String := (units s).map fun unit => ofUnits [unit]

/-- The bytes of a unit. Of the halves, only those that stand for a byte have any. -/
def unitBytes? (unit : Nat) : Option (List UInt8) :=
  if isHalf unit then
    if 0xDC80 ≤ unit && unit ≤ 0xDCFF then some [UInt8.ofNat (unit - 0xDC00)] else none
  else some (String.utf8EncodeChar (Char.ofNat unit))

/-- The bytes of a text, if every unit has some. -/
def bytes? (s : String) : Option ByteArray :=
  ((units s).mapM unitBytes?).map fun bytes => ⟨bytes.flatten.toArray⟩

/-- The number of bytes of a text, as far as it has any. -/
def size (s : String) : Nat := (units s).foldl (fun n u => n + ((unitBytes? u).getD []).length) 0

end IntegerProgram.Text
