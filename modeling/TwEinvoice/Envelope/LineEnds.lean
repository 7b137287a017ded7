import TwEinvoice.Envelope.Wire
import TwEinvoice.Java.BufferedReader

/-!
# The line ends of a payload

The serializer of the original is a Java program that copies a payload line by line.
`append_like_java_read_line` replaces line ends in the whole text instead and splits it
afterwards; it appends the same characters.
-/

namespace TwEinvoice.Envelope

open Rust Java

/-- The text with every line end replaced by a line feed. -/
def unixLines (text : List Char) : List Char := replaceCr (replaceCrLf text)

/-- Lines that each get a line feed: the text, with a line feed at its end if it has none. -/
def terminated (text : List Char) : List Char :=
  if text.getLast? = some '\n' then text else text ++ ['\n']

/-- A normalized text has Unix lines, the last of which is ended. -/
theorem line_normalized_eq (text : String) :
    lineNormalized text = terminated (unixLines text.toList) :=
  rfl

/-! ## One line -/

theorem not_ends_line {line : List Char} (h : ∀ character ∈ line, endsLine character = false) :
    '\n' ∉ line ∧ '\r' ∉ line :=
  ⟨fun hmem => by simpa [endsLine] using h _ hmem, fun hmem => by simpa [endsLine] using h _ hmem⟩

/-- Text without a carriage return stays as it is. -/
theorem unix_lines_append {line : List Char} (h : '\r' ∉ line) (rest : List Char) :
    unixLines (line ++ rest) = line ++ unixLines rest := by
  induction line with
  | nil => rfl
  | cons character line ih =>
      rw [List.mem_cons, not_or] at h
      obtain ⟨hcharacter, hline⟩ := h
      have hkeep : replaceCrLf (character :: (line ++ rest)) =
          character :: replaceCrLf (line ++ rest) := by
        rw [replaceCrLf]
        intro _ heq
        exact absurd heq.symm hcharacter
      have ih := ih hline
      unfold unixLines replaceCr at ih ⊢
      rw [List.cons_append, hkeep, List.map_cons, ih, if_neg (Ne.symm hcharacter), List.cons_append]

theorem unix_lines_lf (rest : List Char) : unixLines ('\n' :: rest) = '\n' :: unixLines rest := by
  have hlf : '\r' ∉ ['\n'] := by simp
  exact unix_lines_append hlf rest

/-- A line feed after a carriage return belongs to the same line end. -/
theorem unix_lines_cr (rest : List Char) :
    unixLines ('\r' :: rest) = '\n' :: unixLines (dropLf rest) := by
  by_cases hlf : ∃ tail, rest = '\n' :: tail
  · obtain ⟨tail, rfl⟩ := hlf
    rfl
  · have hdrop : dropLf rest = rest := by
      rw [dropLf]
      intro tail htail
      exact hlf ⟨tail, htail⟩
    have hkeep : replaceCrLf ('\r' :: rest) = '\r' :: replaceCrLf rest := by
      rw [replaceCrLf]
      intro tail _ htail
      exact hlf ⟨tail, htail⟩
    rw [hdrop, unixLines, hkeep, replaceCr, List.map_cons, if_pos rfl]
    rfl

theorem terminated_line (line rest : List Char) :
    terminated (line ++ '\n' :: rest) =
      line ++ '\n' :: if rest = [] then [] else terminated rest := by
  unfold terminated
  cases rest with
  | nil => simp
  | cons first rest =>
      have hlast : (line ++ '\n' :: first :: rest).getLast? = (first :: rest).getLast? := by
        rw [List.getLast?_append, List.getLast?_cons_cons, List.getLast?_cons]
        rfl
      rw [hlast, if_neg (List.cons_ne_nil first rest)]
      split_ifs with hended
      · rfl
      · rw [List.append_assoc, List.cons_append]

theorem unix_lines_eq_nil {text : List Char} : unixLines text = [] ↔ text = [] := by
  constructor
  · intro hempty
    have hreplaced : replaceCrLf text = [] := List.map_eq_nil_iff.1 hempty
    cases text with
    | nil => rfl
    | cons character rest =>
        unfold replaceCrLf at hreplaced
        split at hreplaced
        · next heq => cases heq
        · cases hreplaced
        · cases hreplaced
  · rintro rfl
    rfl

/-! ## The whole text -/

/-- A line end of either kind is replaced, and the reader goes on behind it. -/
theorem unix_lines_ended {terminator : Char} (hends : endsLine terminator = true)
    (rest : List Char) :
    unixLines (terminator :: rest) =
      '\n' :: unixLines (BufferedReader.pending ⟨rest, terminator = '\r'⟩) := by
  have hkind : terminator = '\n' ∨ terminator = '\r' := by simpa [endsLine] using hends
  obtain rfl | rfl := hkind
  · exact unix_lines_lf rest
  · exact unix_lines_cr rest

/-- The lines that the reader returns, each with a line feed, are what is left of its input with
its line ends replaced. -/
theorem read_lines_flatMap (reader : BufferedReader) :
    (reader.readLines.flatMap fun line => line ++ ['\n']) =
      if reader.pending = [] then [] else terminated (unixLines reader.pending) := by
  fun_induction BufferedReader.readLines reader with
  | case1 reader hread => rw [if_pos (BufferedReader.read_line_none hread), List.flatMap_nil]
  | case2 reader line next hread ih =>
      obtain ⟨hline, htakes⟩ := BufferedReader.read_line_some hread
      obtain ⟨hlf, hcr⟩ := not_ends_line hline
      rw [List.flatMap_cons, ih]
      cases htakes with
      | @ended terminator rest hends hpending =>
          have hne : reader.pending ≠ [] := by rw [hpending]; simp
          rw [if_neg hne, hpending, unix_lines_append hcr, unix_lines_ended hends,
            terminated_line, List.append_assoc]
          simp only [unix_lines_eq_nil, List.cons_append, List.nil_append]
      | unended hne hpending =>
          have hkeep : unixLines line = line := by
            rw [unixLines, replace_cr_lf_eq_self hcr, replace_cr_eq_self hcr]
          have hlast : line.getLast? ≠ some '\n' := fun h => hlf (List.mem_of_getLast? h)
          have hended : terminated line = line ++ ['\n'] := if_neg hlast
          rw [hpending, if_neg hne, hkeep, hended]
          exact List.append_nil _

/-- What `append_like_java_read_line` appends. -/
theorem copy_lines_toList {text : String} (h : text ≠ "") :
    (copyLines text).toList = lineNormalized text := by
  have hne : text.toList ≠ [] := fun hnil => h (String.toList_inj.1 hnil)
  rw [copyLines, String.toList_ofList, read_lines_flatMap]
  exact if_neg hne

/-- There is no carriage return left. -/
theorem line_normalized_not_mem (text : String) : '\r' ∉ lineNormalized text := by
  have hcr : '\r' ∉ unixLines text.toList := replace_cr_not_mem _
  rw [line_normalized_eq, terminated]
  split_ifs
  · exact hcr
  · simp [hcr]

/-- The last character is a line feed. -/
theorem line_normalized_getLast (text : String) :
    (lineNormalized text).getLast? = some '\n' := by
  rw [line_normalized_eq, terminated]
  split_ifs with hlast
  · exact hlast
  · exact List.getLast?_concat

/-- What is normalized stays as it is. -/
theorem line_normalized_idempotent (text : String) :
    lineNormalized (String.ofList (lineNormalized text)) = lineNormalized text := by
  have hkeep : unixLines (lineNormalized text) = lineNormalized text := by
    have hcr := line_normalized_not_mem text
    rw [unixLines, replace_cr_lf_eq_self hcr, replace_cr_eq_self hcr]
  rw [line_normalized_eq (String.ofList _), String.toList_ofList, hkeep, terminated,
    if_pos (line_normalized_getLast text)]

/-- The normalized text is what the envelope gets. -/
theorem append_like_java_read_line_eq {output input text : String}
    (h : lineNormalized input = text.toList) :
    appendLikeJavaReadLine output input = output ++ text :=
  String.toList_inj.1 (by rw [append_like_java_read_line_toList, String.toList_append, h])

/-- The text that is appended is the copy that a loop over `BufferedReader.readLine` prints. It
has no carriage return and ends with a line feed, and its own copy is the same text. -/
theorem append_like_java_read_line_copies (output input : String) (h : input ≠ "") :
    appendLikeJavaReadLine output input = output ++ copyLines input ∧
      '\r' ∉ (copyLines input).toList ∧ (copyLines input).toList.getLast? = some '\n' ∧
      ∀ output, appendLikeJavaReadLine output (copyLines input) = output ++ copyLines input := by
  have hcopy := copy_lines_toList h
  have hagain : lineNormalized (copyLines input) = (copyLines input).toList := by
    have hlist : copyLines input = String.ofList (lineNormalized input) := by
      rw [← hcopy, String.ofList_toList]
    rw [hcopy, hlist, line_normalized_idempotent]
  refine ⟨append_like_java_read_line_eq hcopy.symm, ?_, ?_, ?_⟩
  · rw [hcopy]
    exact line_normalized_not_mem input
  · rw [hcopy]
    exact line_normalized_getLast input
  · intro output
    exact append_like_java_read_line_eq hagain

/-- All kinds of line ends become line feeds. -/
theorem copy_lines_mixed : copyLines "a\r\r\nb\n\rc" = "a\n\nb\n\nc\n" := by
  have hcopies := (append_like_java_read_line_copies "" "a\r\r\nb\n\rc" (by decide)).1
  rw [String.empty_append] at hcopies
  rw [← hcopies]
  decide

end TwEinvoice.Envelope
