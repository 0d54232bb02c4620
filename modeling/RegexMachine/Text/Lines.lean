namespace RegexMachine.Text

/-- The byte that ends a line. -/
def lineFeed : UInt8 := 10

/-- The byte that belongs to the end of a line when a line feed follows it. -/
def carriageReturn : UInt8 := 13

/-- Cuts the bytes after every line feed. `line` holds the bytes of the line that is being read,
newest first. -/
def segmentsFrom (line : List UInt8) : List UInt8 → List (List UInt8)
  | [] => if line.isEmpty then [] else [line.reverse]
  | byte :: bytes =>
    if byte = lineFeed then (byte :: line).reverse :: segmentsFrom [] bytes
    else segmentsFrom (byte :: line) bytes

/-- A line without the line feed that ends it and one carriage return directly before that. -/
def withoutTerminator (line : List UInt8) : List UInt8 :=
  match line.reverse with
  | [] => []
  | last :: before =>
    if last = lineFeed then
      if before.head? = some carriageReturn then before.tail.reverse else before.reverse
    else line

/-- The lines of `bytes`, without their ends. -/
def lines (bytes : List UInt8) : List (List UInt8) :=
  (segmentsFrom [] bytes).map withoutTerminator

/-- The text that a line spells in UTF-8, if it spells one. -/
def decode (line : List UInt8) : Option String := String.fromUTF8? line.toByteArray

theorem segmentsFrom_flatten (line bytes : List UInt8) :
    (segmentsFrom line bytes).flatten = line.reverse ++ bytes := by
  induction bytes generalizing line with
  | nil => cases line <;> simp [segmentsFrom]
  | cons byte bytes ih => by_cases h : byte = lineFeed <;> simp [segmentsFrom, h, ih]

end RegexMachine.Text
