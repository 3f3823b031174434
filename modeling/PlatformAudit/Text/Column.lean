/-!
# Columns

Progress lines and summaries are set in columns.  Widths count characters, and blanks at the end of
a line are taken away.
-/

namespace PlatformAudit.Text

def isBlank (char : Char) : Bool :=
  let code := char.toNat
  (0x9 ≤ code && code ≤ 0xD) || code == 0x20 || code == 0x85 || code == 0xA0 || code == 0x1680 ||
    (0x2000 ≤ code && code ≤ 0x200A) || code == 0x2028 || code == 0x2029 || code == 0x202F ||
    code == 0x205F || code == 0x3000

/-- Fills a text up with blanks to the given width.  A longer text stays as it is. -/
def column (width : Nat) (text : String) : String :=
  text ++ String.ofList (List.replicate (width - text.length) ' ')

def withoutTrailingBlanks (text : String) : String :=
  String.ofList (text.toList.reverse.dropWhile isBlank).reverse

end PlatformAudit.Text
