import Mathlib.Data.List.Basic
import Mathlib.Data.List.TakeDrop
import Mathlib.Data.List.TakeWhile

/-!
# Lines of a Java reader

`BufferedReader.readLine` and the loop that calls it until it returns null. A line ends with a
line feed, a carriage return or both, and the last one need not end.
-/

namespace TwEinvoice.Java

/-- The characters that are left, and whether the line feed of the last line end may be one of
them. -/
structure BufferedReader where
  rest : List Char
  skipLf : Bool

/-- Whether the character ends a line. -/
def endsLine (character : Char) : Bool := character = '\n' ∨ character = '\r'

/-- The input without a line feed at its start. -/
def dropLf : List Char → List Char
  | '\n' :: rest => rest
  | rest => rest

namespace BufferedReader

/-- The characters of the next lines. -/
def pending (reader : BufferedReader) : List Char :=
  if reader.skipLf then dropLf reader.rest else reader.rest

/-- `BufferedReader.readLine`. -/
def readLine (reader : BufferedReader) : Option (List Char × BufferedReader) :=
  match reader.pending.span fun character => !endsLine character with
  | (line, terminator :: rest) => some (line, ⟨rest, terminator = '\r'⟩)
  | (line, []) => if line = [] then none else some (line, ⟨[], false⟩)

theorem length_dropLf (input : List Char) : (dropLf input).length ≤ input.length := by
  unfold dropLf
  split
  · exact Nat.le_succ _
  · exact Nat.le_refl _

theorem length_pending (reader : BufferedReader) : reader.pending.length ≤ reader.rest.length := by
  unfold pending
  split_ifs
  · exact length_dropLf reader.rest
  · exact Nat.le_refl _

/-- What a line takes from the reader. -/
inductive Takes (reader : BufferedReader) (line : List Char) : BufferedReader → Prop where
  | ended {terminator : Char} {rest : List Char} (hends : endsLine terminator = true)
      (hpending : reader.pending = line ++ terminator :: rest) :
      Takes reader line ⟨rest, terminator = '\r'⟩
  | unended (hne : line ≠ []) (hpending : reader.pending = line) : Takes reader line ⟨[], false⟩

/-- The characters before the next line end. -/
theorem span_pending {reader : BufferedReader} {line rest : List Char}
    (h : reader.pending.span (fun character => !endsLine character) = (line, rest)) :
    reader.pending = line ++ rest ∧ (∀ character ∈ line, endsLine character = false) ∧
      ∀ terminator ∈ rest.head?, endsLine terminator = true := by
  rw [List.span_eq_takeWhile_dropWhile, Prod.mk.injEq] at h
  obtain ⟨rfl, rfl⟩ := h
  refine ⟨(List.takeWhile_append_dropWhile).symm, ?_, ?_⟩
  · intro character hmem
    simpa using List.mem_takeWhile_imp hmem
  · intro terminator hhead
    have hnot := List.head?_dropWhile_not (fun character => !endsLine character) reader.pending
    rw [Option.mem_def.1 hhead] at hnot
    simpa using hnot

/-- A line has no line end in it, and the reader goes on behind it. -/
theorem read_line_some {reader next : BufferedReader} {line : List Char}
    (h : reader.readLine = some (line, next)) :
    (∀ character ∈ line, endsLine character = false) ∧ reader.Takes line next := by
  unfold readLine at h
  split at h
  · next line terminator rest hspan =>
    cases h
    obtain ⟨hpending, hline, hends⟩ := span_pending hspan
    exact ⟨hline, .ended (hends terminator rfl) hpending⟩
  · next line hspan =>
    split_ifs at h with hempty
    cases h
    obtain ⟨hpending, hline, _⟩ := span_pending hspan
    rw [List.append_nil] at hpending
    exact ⟨hline, .unended hempty hpending⟩

/-- The reader returns null at the end of its input only. -/
theorem read_line_none {reader : BufferedReader} (h : reader.readLine = none) :
    reader.pending = [] := by
  unfold readLine at h
  split at h
  · cases h
  · next line hspan =>
    split_ifs at h with hempty
    rw [(span_pending hspan).1, hempty, List.append_nil]

/-- Every line takes something. -/
theorem read_line_length_lt {reader next : BufferedReader} {line : List Char}
    (h : reader.readLine = some (line, next)) : next.rest.length < reader.rest.length := by
  obtain ⟨_, htakes⟩ := read_line_some h
  have hle := reader.length_pending
  cases htakes with
  | @ended terminator rest hends hpending =>
      rw [hpending, List.length_append, List.length_cons] at hle
      show rest.length < reader.rest.length
      omega
  | unended hne hpending =>
      rw [hpending] at hle
      exact Nat.lt_of_lt_of_le (List.length_pos_iff.2 hne) hle

/-- The lines that `readLine` returns before null. -/
def readLines (reader : BufferedReader) : List (List Char) :=
  match _hread : reader.readLine with
  | none => []
  | some (line, next) => line :: next.readLines
termination_by reader.rest.length
decreasing_by exact read_line_length_lt _hread

end BufferedReader

/-- The text with each of its lines followed by a line feed: what a loop over `readLine` prints. -/
def copyLines (text : String) : String :=
  String.ofList ((BufferedReader.readLines ⟨text.toList, false⟩).flatMap fun line => line ++ ['\n'])

end TwEinvoice.Java
