import DeviceFleet.Json.Value
import DeviceFleet.Number.Shortest
import DeviceFleet.Text.Hex

/-!
JSON text without white space. Every character that could end a line is escaped, so a value fills
one line.
-/

namespace DeviceFleet.Json

def escapeCode (c : Char) : List Char :=
  let ds := Text.Hex.digits c.toNat
  ['\\', 'u'] ++ List.replicate (4 - ds.length) '0' ++ ds

def escapeChar (c : Char) : List Char :=
  if c = '"' then ['\\', '"']
  else if c = '\\' then ['\\', '\\']
  else if c = '\n' then ['\\', 'n']
  else if c = '\r' then ['\\', 'r']
  else if c = '\t' then ['\\', 't']
  else if c.toNat < 0x20 ∨ c.toNat = 0x85 ∨ c.toNat = 0x2028 ∨ c.toNat = 0x2029 then escapeCode c
  else [c]

def quote (s : String) : String := String.ofList ('"' :: s.toList.flatMap escapeChar ++ ['"'])

def numberText : Binary64 → String
  | .finite negative c e => (Binary64.finite negative c e).compactText
  | _ => "null"

mutual

def render : Json → String
  | .null => "null"
  | .boolean b => if b then "true" else "false"
  | .integer n => Text.Decimal.signedText n
  | .number x => numberText x
  | .text s => quote s
  | .list items => "[" ++ ",".intercalate (renderItems items) ++ "]"
  | .object fields => "\x7b" ++ ",".intercalate (renderFields fields) ++ "\x7d"

def renderItems : List Json → List String
  | [] => []
  | j :: r => render j :: renderItems r

def renderFields : List (String × Json) → List String
  | [] => []
  | (k, j) :: r => (quote k ++ ":" ++ render j) :: renderFields r

end

end DeviceFleet.Json
