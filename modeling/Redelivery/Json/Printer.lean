import Redelivery.Text.Quoted
import Redelivery.Whole

/-! JSON text without white space. Only the two marks and the control characters are escaped, five
of them by a letter and the others by four lower-case hexadecimal digits. -/
namespace Redelivery.Json

def escapeChar (c : Char) : List Char :=
  if c = '"' then ['\\', '"']
  else if c = '\\' then ['\\', '\\']
  else if c = '\x08' then ['\\', 'b']
  else if c = '\x0c' then ['\\', 'f']
  else if c = '\n' then ['\\', 'n']
  else if c = '\r' then ['\\', 'r']
  else if c = '\t' then ['\\', 't']
  else if c.toNat < 32 then
    ['\\', 'u', '0', '0', Text.hexDigit (c.toNat / 16), Text.hexDigit (c.toNat % 16)]
  else [c]

def printText (s : String) : List Char := '"' :: s.toList.flatMap escapeChar ++ ['"']

def commaSeparated (items : List (List Char)) : List Char := [','].intercalate items

def printList (items : List (List Char)) : List Char := '[' :: commaSeparated items ++ [']']

def printMember (key : String) (value : List Char) : List Char := printText key ++ ':' :: value

def printObject (members : List (String × List Char)) : List Char :=
  '\x7b' :: commaSeparated (members.map fun m => printMember m.1 m.2) ++ ['\x7d']

end Redelivery.Json
