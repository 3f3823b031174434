import PlatformAudit.Text.Number
import PlatformAudit.Text.Visible

/-!
# Quoted text

A text in quotes shows every character: those that are not visible, the quote and the backslash are
written as escapes.
-/

namespace PlatformAudit.Text

def escaped (char : Char) : List Char :=
  if char = '"' then ['\\', '"']
  else if char = '\\' then ['\\', '\\']
  else if char = '\n' then ['\\', 'n']
  else if char = '\r' then ['\\', 'r']
  else if char = '\t' then ['\\', 't']
  else if char.toNat = 0 then ['\\', '0']
  else if isVisible char then [char]
  else ['\\', 'u', '\x7b'] ++ hexDigits char.toNat ++ ['\x7d']

def inQuotes (text : String) : String :=
  String.ofList ('"' :: text.toList.flatMap escaped ++ ['"'])

end PlatformAudit.Text
