import DeviceFleet.Toml.Reader

/-!
Places in a document as lines and columns, both counted from one.
-/

namespace DeviceFleet.Toml

structure LineColumn where
  line : Nat
  column : Nat
  deriving DecidableEq, Repr

def charsOf (s : List Char) : String := String.ofList s

/-- The characters since the last line feed. -/
def lastLine (s : List Char) : List Char := (s.reverse.takeWhile (· ≠ '\n')).reverse

/-- The place of the character with this number. Columns count characters, except that at a
character of several bytes they count the bytes before it. The end of the text lies one column
after its last character. -/
def locate (text : List Char) (place : Nat) : LineColumn :=
  let lineOf (before : List Char) : Nat := before.count '\n' + 1
  if text.isEmpty then ⟨1, place + 1⟩
  else if place < text.length then
    let before := text.take place
    let line := lastLine before
    let wide := (text[place]?).any fun c => !isNarrow c
    ⟨lineOf before, (if wide then (charsOf line).utf8ByteSize else line.length) + 1⟩
  else
    let before := text.dropLast
    ⟨lineOf before, (lastLine before).length + 2⟩

end DeviceFleet.Toml
