import DeviceFleet.Text.Hex
import DeviceFleet.Text.Printable

/-!
How messages quote a text: double quotes around it, a backslash before quotes and backslashes, and
a code for every character that would not show.
-/

namespace DeviceFleet.Text

def escapeChar (c : Char) : List Char :=
  if c = '"' then ['\\', '"']
  else if c = '\\' then ['\\', '\\']
  else if c = '\x00' then ['\\', '0']
  else if c = '\t' then ['\\', 't']
  else if c = '\n' then ['\\', 'n']
  else if c = '\r' then ['\\', 'r']
  else if isCombining c || !isPrintable c then
    ['\\', 'u', '\x7b'] ++ Hex.digits c.toNat ++ ['\x7d']
  else [c]

def quoted (s : String) : String :=
  String.ofList ('"' :: s.toList.flatMap escapeChar ++ ['"'])

end DeviceFleet.Text
