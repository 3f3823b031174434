import PlatformAudit.Text.Number

/-!
# JSON documents

A document is printed on one line with no blanks.  Members keep the order in which they are
written down.
-/

namespace PlatformAudit

/-- A JSON document without fractions and without null. -/
inductive Json where
  | number (value : Nat)
  | string (value : String)
  | bool (value : Bool)
  | array (items : List Json)
  | object (members : List (String × Json))

namespace Json

/-- The escape of one character inside a string.  Quotes, backslashes and control characters of
ASCII are escaped, all others stand for themselves. -/
def escape (char : Char) : List Char :=
  if char = '"' then ['\\', '"']
  else if char = '\\' then ['\\', '\\']
  else if char = '\n' then ['\\', 'n']
  else if char = '\r' then ['\\', 'r']
  else if char = '\t' then ['\\', 't']
  else if char.toNat = 0x8 then ['\\', 'b']
  else if char.toNat = 0xC then ['\\', 'f']
  else if char.toNat < 0x20 ∨ char.toNat = 0x7F then
    let digits := Text.hexDigits char.toNat
    ['\\', 'u'] ++ List.replicate (4 - digits.length) '0' ++ digits
  else [char]

def blockBytes : Nat := 16

/-- Whether a character may be in a block that is written as it is.  The delete character may. -/
def isPlain (char : Char) : Bool :=
  0x20 ≤ char.toNat && char.toNat < 0x80 && char ≠ '"' && char ≠ '\\'

/-- A full block.  It is written as it is if all of its characters are plain. -/
def writeBlock (block : List Char) : List Char :=
  if block.all isPlain then block else block.flatMap escape

/-- The characters of a string behind those of an unfinished block.  `room` is the number of bytes
that the block can still take; the character that fills it may stick out.  The last block is escaped
if it does not become full. -/
def writeFrom (block : List Char) (room : Nat) : List Char → List Char
  | [] => block.flatMap escape
  | char :: rest =>
      if char.utf8Size < room then writeFrom (block ++ [char]) (room - char.utf8Size) rest
      else writeBlock (block ++ [char]) ++ writeFrom [] blockBytes rest

def quote (value : String) : String :=
  String.ofList ('"' :: writeFrom [] blockBytes value.toList ++ ['"'])

mutual

def render : Json → String
  | .number value => Text.decimal value
  | .string value => quote value
  | .bool true => "true"
  | .bool false => "false"
  | .array items => "[" ++ ",".intercalate (renderItems items) ++ "]"
  | .object members => "\x7b" ++ ",".intercalate (renderMembers members) ++ "\x7d"

def renderItems : List Json → List String
  | [] => []
  | item :: rest => render item :: renderItems rest

def renderMembers : List (String × Json) → List String
  | [] => []
  | (name, value) :: rest => (quote name ++ ":" ++ render value) :: renderMembers rest

end

end Json

end PlatformAudit
