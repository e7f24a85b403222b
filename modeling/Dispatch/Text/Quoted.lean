import Dispatch.Hex
import Dispatch.Text.Unprintable

/-!
# Quoted text

A text between double quotes. A quote and a backslash are escaped, five controls have letters, and
every other character without a glyph of its own is written by its number.
-/

set_option autoImplicit false

namespace Dispatch.Text

def quotedChar (c : Char) : List Char :=
  if c = '\x00' then ['\\', '0']
  else if c = '\t' then ['\\', 't']
  else if c = '\r' then ['\\', 'r']
  else if c = '\n' then ['\\', 'n']
  else if c = '\\' ∨ c = '"' then ['\\', c]
  else if isUnprintable c then ['\\', 'u', '\x7b'] ++ Hex.quantityDigits c.toNat ++ ['\x7d']
  else [c]

def quoted (cs : List Char) : String :=
  String.ofList (['"'] ++ cs.flatMap quotedChar ++ ['"'])

end Dispatch.Text
