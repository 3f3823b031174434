import PlatformAudit.Files.Fault

/-!
# Paths

A path leads to a file by names with slashes between them, from the root if it begins with a slash
and from the working directory otherwise.  Several slashes in a row count as one.
-/

namespace PlatformAudit

/-- A path, taken apart. -/
structure Path where
  fromRoot : Bool
  names : List String
  closed : Bool
deriving DecidableEq, Repr

namespace Path

def maxBytes : Nat := 4095

def maxNameBytes : Nat := 255

/-- The pieces of a text between its slashes, empty ones included. -/
def pieces : List Char → List (List Char)
  | [] => [[]]
  | char :: rest =>
      if char = '/' then [] :: pieces rest
      else
        match pieces rest with
        | [] => [[char]]
        | first :: others => (char :: first) :: others

/-- Takes a path apart.  The null character is looked for first.  The empty path leads nowhere. -/
def read (text : String) : Except Fault Path :=
  let chars := text.toList
  if chars.any (·.toNat = 0) then .error .nullInPath
  else if chars.isEmpty then .error .notFound
  else if maxBytes < text.utf8ByteSize then .error .nameTooLong
  else
    .ok
      { fromRoot := chars.head? = some '/'
        names := ((pieces chars).filter (!·.isEmpty)).map String.ofList
        closed := chars.getLast? = some '/' }

def here : String := "."

def above : String := ".."

end Path

end PlatformAudit
