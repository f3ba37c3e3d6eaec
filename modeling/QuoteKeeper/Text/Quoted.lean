import QuoteKeeper.Text.Printable
/-
  QuoteKeeper.Text.Quoted — a string between double quotes, escaped so that it reads back.

  Printable characters stand as themselves, except the quote and the backslash, which are
  escaped. The seven control characters with a letter escape use it (`\a \b \f \n \r \t \v`);
  any other non-printable character below U+0080 is written `\xNN`, below U+10000 `\uNNNN`,
  and above `\UNNNNNNNN`, in lowercase hex. Which characters are printable is Text.Printable's
  table.
-/

namespace QuoteKeeper

namespace Text

def hexDigitLower (n : Nat) : Char := "0123456789abcdef".toList.getD n '0'

/-- `n` in `width` lowercase hex digits. -/
def hexWidth (width n : Nat) : List Char :=
  (List.range width).reverse.map fun i => hexDigitLower (n / Nat.pow 16 i % 16)

def quotedChar (c : Char) : List Char :=
  if c = '"' then ['\\', '"']
  else if c = '\\' then ['\\', '\\']
  else if isPrintable c then [c]
  else if c = '\x07' then ['\\', 'a'] else if c = '\x08' then ['\\', 'b']
  else if c = '\x0c' then ['\\', 'f'] else if c = '\n' then ['\\', 'n']
  else if c = '\r' then ['\\', 'r'] else if c = '\t' then ['\\', 't']
  else if c = '\x0b' then ['\\', 'v']
  else if c.toNat < 0x80 then '\\' :: 'x' :: hexWidth 2 c.toNat
  else if c.toNat < 0x10000 then '\\' :: 'u' :: hexWidth 4 c.toNat
  else '\\' :: 'U' :: hexWidth 8 c.toNat

/-- A character between single quotes, escaped the same way except that the single quote is
escaped and the double quote is not. -/
def quotedRune (c : Char) : String :=
  let body := if c = '\x27' then ['\\', '\x27'] else if c = '"' then ['"'] else quotedChar c
  String.ofList ('\x27' :: body ++ ['\x27'])

/-- The string between double quotes, escaped. -/
def quoted (s : String) : String := String.ofList ('"' :: s.toList.flatMap quotedChar ++ ['"'])

end Text

end QuoteKeeper
