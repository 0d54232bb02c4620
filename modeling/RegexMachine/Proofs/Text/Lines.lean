import RegexMachine.Text.Lines

namespace RegexMachine.Text

/-- The bytes of a line without one carriage return at their end. -/
def withoutReturn (line : List UInt8) : List UInt8 :=
  if line.getLast? = some carriageReturn then line.dropLast else line

/-- The statement `Cut bytes lines` says that `lines` are the lines of `bytes`. A carriage return
belongs to the end of a line only where a line feed follows it. -/
inductive Cut : List UInt8 → List (List UInt8) → Prop
  | nothing : Cut [] []
  | unended {line : List UInt8} (hsome : line ≠ []) (hline : lineFeed ∉ line) : Cut line [line]
  | ended {line rest : List UInt8} {lines : List (List UInt8)} (hline : lineFeed ∉ line)
      (hrest : Cut rest lines) : Cut (line ++ lineFeed :: rest) (withoutReturn line :: lines)

variable {line rest : List UInt8}

theorem segmentsFrom_unended (before : List UInt8) (hline : lineFeed ∉ line)
    (hsome : before.reverse ++ line ≠ []) :
    segmentsFrom before line = [before.reverse ++ line] := by
  induction line generalizing before with
  | nil =>
    have hbefore : before.isEmpty = false := by simpa using hsome
    simp [segmentsFrom, hbefore]
  | cons byte line ih =>
    have hbyte : byte ≠ lineFeed := fun h => hline (h ▸ List.mem_cons_self)
    have hrest : lineFeed ∉ line := fun h => hline (List.mem_cons_of_mem _ h)
    rw [segmentsFrom, if_neg hbyte, ih (byte :: before) hrest (by simp)]
    simp

theorem segmentsFrom_ended (before rest : List UInt8) (hline : lineFeed ∉ line) :
    segmentsFrom before (line ++ lineFeed :: rest)
      = (before.reverse ++ line ++ [lineFeed]) :: segmentsFrom [] rest := by
  induction line generalizing before with
  | nil => simp [segmentsFrom]
  | cons byte line ih =>
    have hbyte : byte ≠ lineFeed := fun h => hline (h ▸ List.mem_cons_self)
    have hrest : lineFeed ∉ line := fun h => hline (List.mem_cons_of_mem _ h)
    rw [List.cons_append, segmentsFrom, if_neg hbyte, ih (byte :: before) hrest]
    simp

theorem withoutTerminator_unended (hline : lineFeed ∉ line) : withoutTerminator line = line := by
  unfold withoutTerminator
  split
  · rename_i hnone
    exact (List.reverse_eq_nil_iff.1 hnone).symm
  · rename_i last before hreverse
    have hmem : last ∈ line := by
      rw [← List.mem_reverse, hreverse]
      exact List.mem_cons_self
    have hlast : last ≠ lineFeed := fun h => hline (h ▸ hmem)
    exact if_neg hlast

theorem withoutTerminator_ended (line : List UInt8) :
    withoutTerminator (line ++ [lineFeed]) = withoutReturn line := by
  simp [withoutTerminator, withoutReturn]

theorem lines_unended (hsome : line ≠ []) (hline : lineFeed ∉ line) : lines line = [line] := by
  rw [lines, segmentsFrom_unended [] hline hsome]
  simp [withoutTerminator_unended hline]

theorem lines_ended (hline : lineFeed ∉ line) (rest : List UInt8) :
    lines (line ++ lineFeed :: rest) = withoutReturn line :: lines rest := by
  rw [lines, segmentsFrom_ended [] rest hline, List.map_cons, List.reverse_nil, List.nil_append,
    withoutTerminator_ended, lines]

theorem cut_lines (bytes : List UInt8) : Cut bytes (lines bytes) := by
  by_cases hfeed : lineFeed ∈ bytes
  · obtain ⟨line, rest, hbytes, hline⟩ := List.eq_append_cons_of_mem hfeed
    have hshorter : rest.length < bytes.length := by
      rw [hbytes, List.length_append, List.length_cons]
      omega
    rw [hbytes, lines_ended hline]
    exact .ended hline (cut_lines rest)
  · by_cases hsome : bytes = []
    · subst hsome
      exact .nothing
    · rw [lines_unended hsome hfeed]
      exact .unended hsome hfeed
termination_by bytes.length

/-- There is exactly one way to cut bytes into lines. -/
theorem cut_iff {bytes : List UInt8} {cut : List (List UInt8)} :
    Cut bytes cut ↔ cut = lines bytes := by
  apply Iff.intro
  · intro h
    induction h with
    | nothing => rfl
    | unended hsome hline => rw [lines_unended hsome hline]
    | ended hline _ ih => rw [lines_ended hline, ih]
  · intro h
    rw [h]
    exact cut_lines bytes

end RegexMachine.Text
