import RegexMachine.Text.Unprintable

namespace RegexMachine.Text

/-- The number of a character in lower-case hexadecimal digits, without leading zeros. -/
def hexadecimal (c : Char) : List Char := Nat.toDigits 16 c.toNat

/-- How `c` is written between two delimiters. The other kind of delimiter needs no escape. -/
def escape (delimiter c : Char) : List Char :=
  if c = '\x00' then ['\\', '0']
  else if c = '\t' then ['\\', 't']
  else if c = '\n' then ['\\', 'n']
  else if c = '\r' then ['\\', 'r']
  else if c = '\\' || c = delimiter then ['\\', c]
  else if isUnprintable c then ['\\', 'u', '\x7b'] ++ hexadecimal c ++ ['\x7d']
  else [c]

/-- The text between two delimiters. -/
def quote (delimiter : Char) (text : List Char) : String :=
  String.ofList (delimiter :: text.flatMap (escape delimiter) ++ [delimiter])

theorem escape_printable {delimiter c : Char} (hc : isUnprintable c = false) (hs : c ≠ '\\')
    (hd : c ≠ delimiter) : escape delimiter c = [c] := by
  have shown {d : Char} (h : isUnprintable d = true) : c ≠ d := fun e => by simp [e, h] at hc
  simp [escape, hc, hs, hd, shown (d := '\x00') (by decide), shown (d := '\t') (by decide),
    shown (d := '\n') (by decide), shown (d := '\r') (by decide)]

end RegexMachine.Text
