import Mathlib.Data.List.Basic

/-!
# Wrapping at a width

`wrap` writes the items of a list with a separator whenever the number of items that are written
is a multiple of the width, and with one more if the last line is still open. `wrap_wrapped` says
which lines these are.
-/

namespace TwEinvoice.Parsing

variable {α : Type*} {width : Nat} {separator : α}

/-- Write an item, and a separator if its number is a multiple of the width. -/
def wrapStep (width : Nat) (separator : α) (output : List α) (entry : α × Nat) : List α :=
  if (entry.2 + 1) % width = 0 then output ++ [entry.1, separator] else output ++ [entry.1]

/-- Write all items, and a separator after an open line. -/
def wrap (width : Nat) (separator : α) (input : List α) : List α :=
  let output := input.zipIdx.foldl (wrapStep width separator) []
  if input.length % width ≠ 0 then output ++ [separator] else output

/-- The text of lines that end with a separator. -/
def unlines (separator : α) (lines : List (List α)) : List α :=
  lines.flatMap fun line => line ++ [separator]

theorem unlines_concat (lines : List (List α)) (line : List α) :
    unlines separator (lines ++ [line]) = unlines separator lines ++ (line ++ [separator]) := by
  rw [unlines, List.flatMap_append, List.flatMap_singleton]
  rfl

theorem mem_unlines {lines : List (List α)} {item : α} (h : item ∈ unlines separator lines) :
    item = separator ∨ item ∈ lines.flatten := by
  obtain ⟨line, hline, hitem⟩ := List.mem_flatMap.1 h
  rcases List.mem_append.1 hitem with hmem | hmem
  · exact .inr (List.mem_flatten.2 ⟨line, hline, hmem⟩)
  · exact .inl (List.mem_singleton.1 hmem)

theorem length_unlines (lines : List (List α)) :
    (unlines separator lines).length = lines.flatten.length + lines.length := by
  induction lines with
  | nil => rfl
  | cons line lines ih =>
      rw [unlines, List.flatMap_cons, ← unlines, List.length_append, ih]
      simp only [List.length_append, List.length_cons, List.length_nil, List.flatten_cons]
      omega

/-- Without the separators, the text of lines is what they are joined to. -/
theorem filter_unlines [DecidableEq α] {lines : List (List α)} (h : separator ∉ lines.flatten) :
    (unlines separator lines).filter (· ≠ separator) = lines.flatten := by
  have hline : ∀ line ∈ lines, (line ++ [separator]).filter (· ≠ separator) = line := by
    intro line hmem
    rw [List.filter_append, List.filter_eq_self.2, List.filter_singleton]
    · simp
    · intro item hitem
      refine decide_eq_true fun heq => h ?_
      exact List.mem_flatten.2 ⟨line, hmem, heq ▸ hitem⟩
  rw [unlines, List.filter_flatMap, List.flatMap_congr hline, List.flatMap_id']

/-- The length of lines that are all full. -/
theorem length_flatten_full {lines : List (List α)} (h : ∀ line ∈ lines, line.length = width) :
    lines.flatten.length = lines.length * width := by
  induction lines with
  | nil => exact (Nat.zero_mul width).symm
  | cons line lines ih =>
      rw [List.flatten_cons, List.length_append, h line List.mem_cons_self,
        ih fun other hmem => h other (List.mem_cons_of_mem _ hmem), List.length_cons,
        Nat.succ_mul, Nat.add_comm]

/-! ## The loop -/

/-- What the loop has written: full lines, and an open line that is shorter. -/
structure Lined (width : Nat) (lines : List (List α)) (current written : List α) : Prop where
  full : ∀ line ∈ lines, line.length = width
  short : current.length < width
  joined : lines.flatten ++ current = written

/-- All lines before the current one are full. -/
theorem Lined.length {lines : List (List α)} {current written : List α}
    (h : Lined width lines current written) :
    written.length = lines.length * width + current.length := by
  rw [← h.joined, List.length_append, length_flatten_full h.full]

/-- One item closes the open line or extends it. -/
theorem Lined.step {lines : List (List α)} {current written : List α}
    (h : Lined width lines current written) (separator item : α) :
    ∃ lines' current', Lined width lines' current' (written ++ [item]) ∧
      wrapStep width separator (unlines separator lines ++ current) (item, written.length) =
        unlines separator lines' ++ current' := by
  -- Full lines do not count modulo the width, so the open line decides.
  have hmod : (written.length + 1) % width = (current.length + 1) % width := by
    rw [h.length, Nat.add_assoc, Nat.mul_add_mod_self_right]
  have hshort := h.short
  by_cases hclosed : current.length + 1 = width
  · refine ⟨lines ++ [current ++ [item]], [], ⟨?_, ?_, ?_⟩, ?_⟩
    · intro line hmem
      rcases List.mem_append.1 hmem with hline | hline
      · exact h.full line hline
      · rw [List.mem_singleton.1 hline, List.length_append, List.length_singleton, hclosed]
    · rw [List.length_nil]
      omega
    · rw [← h.joined, List.flatten_append, List.flatten_singleton, List.append_nil,
        List.append_assoc]
    · rw [wrapStep, if_pos (by rw [hmod, hclosed, Nat.mod_self]), unlines_concat, List.append_nil,
        List.append_assoc, List.append_assoc]
      rfl
  · have hopen : (current.length + 1) % width ≠ 0 := by
      rw [Nat.mod_eq_of_lt (by omega)]
      exact Nat.succ_ne_zero _
    refine ⟨lines, current ++ [item], ⟨h.full, ?_, ?_⟩, ?_⟩
    · rw [List.length_append, List.length_singleton]
      omega
    · rw [← h.joined, List.append_assoc]
    · rw [wrapStep, if_neg (by rwa [hmod]), List.append_assoc]

/-- Wrapping the rest, item by item. -/
theorem Lined.run {lines : List (List α)} {current written : List α}
    (h : Lined width lines current written) (separator : α) (rest : List α) :
    ∃ lines' current', Lined width lines' current' (written ++ rest) ∧
      (rest.zipIdx written.length).foldl (wrapStep width separator)
          (unlines separator lines ++ current) =
        unlines separator lines' ++ current' := by
  induction rest generalizing lines current written with
  | nil =>
      rw [List.append_nil]
      exact ⟨lines, current, h, rfl⟩
  | cons item rest ih =>
      obtain ⟨lines', current', hlined, hstep⟩ := h.step separator item
      obtain ⟨final, last, hfinal, hrun⟩ := ih hlined
      rw [List.append_assoc, List.singleton_append] at hfinal
      rw [List.length_append, List.length_singleton] at hrun
      refine ⟨final, last, hfinal, ?_⟩
      rw [List.zipIdx_cons, List.foldl_cons, hstep, hrun]

/-! ## The lines -/

/-- A list wrapped at a width: full lines, and a last line that is not empty. -/
structure Wrapped (width : Nat) (input : List α) (lines : List (List α)) (last : List α) :
    Prop where
  full : ∀ line ∈ lines, line.length = width
  nonempty : last ≠ []
  fits : last.length ≤ width
  joined : (lines ++ [last]).flatten = input

/-- The number of lines is the quotient of the length by the width, rounded up. -/
theorem Wrapped.length_lines {input last : List α} {lines : List (List α)}
    (h : Wrapped width input lines last) :
    (lines ++ [last]).length = (input.length + (width - 1)) / width := by
  have hlength : input.length = lines.length * width + last.length := by
    rw [← h.joined, List.flatten_append, List.flatten_singleton, List.length_append,
      length_flatten_full h.full]
  have hpos := List.length_pos_iff.2 h.nonempty
  have hfits := h.fits
  rw [List.length_append, List.length_singleton, hlength]
  symm
  apply Nat.div_eq_of_lt_le
  · rw [Nat.add_mul]
    omega
  · rw [Nat.succ_mul, Nat.add_mul]
    omega

/-- What is written for a list that is not empty are its lines. -/
theorem wrap_wrapped {input : List α} (hwidth : 0 < width) (separator : α) (hinput : input ≠ []) :
    ∃ lines last, Wrapped width input lines last ∧
      wrap width separator input = unlines separator (lines ++ [last]) := by
  have hstart : Lined width [] ([] : List α) [] := ⟨by simp, hwidth, rfl⟩
  obtain ⟨lines, current, hlined, hrun⟩ := hstart.run separator input
  rw [List.nil_append] at hlined
  have hmod : input.length % width = current.length := by
    rw [hlined.length, Nat.mul_add_mod_self_right, Nat.mod_eq_of_lt hlined.short]
  have houtput : input.zipIdx.foldl (wrapStep width separator) [] =
      unlines separator lines ++ current := hrun
  rw [wrap, houtput, hmod]
  by_cases hopen : current = []
  · -- The last line is full, and its separator is written already.
    subst hopen
    have hjoined := hlined.joined
    rw [List.append_nil] at hjoined
    rcases List.eq_nil_or_concat lines with rfl | ⟨lines, last, rfl⟩
    · exact absurd hjoined.symm hinput
    · rw [List.concat_eq_append] at hlined hjoined ⊢
      have hlast : last.length = width := hlined.full last (by simp)
      have hfull : ∀ line ∈ lines, line.length = width := fun line hmem =>
        hlined.full line (List.mem_append_left _ hmem)
      refine ⟨lines, last, ⟨hfull, ?_, Nat.le_of_eq hlast, hjoined⟩, ?_⟩
      · exact List.ne_nil_of_length_pos (by omega)
      · rw [List.length_nil, if_neg (not_not.2 rfl), List.append_nil]
  -- The final separator closes the open line.
  · refine ⟨lines, current, ⟨hlined.full, hopen, Nat.le_of_lt hlined.short, ?_⟩, ?_⟩
    · rw [List.flatten_append, List.flatten_singleton, hlined.joined]
    · rw [if_pos (mt List.length_eq_zero_iff.1 hopen), unlines_concat, List.append_assoc]

end TwEinvoice.Parsing
