import Mathlib.Data.List.Basic

/-!
# Splitting at a separator

`Splits` says what the parts of a text between its separators are. `List.splitOn` finds all of
them, and `rsplitn` finds a number of them from the right and leaves the rest of the text in one
piece.
-/

namespace TwEinvoice.Parsing

variable {α : Type*} [DecidableEq α] {separator : α}

/-! ## All parts -/

/-- The parts of a text between its separators. -/
structure Splits (separator : α) (text : List α) (parts : List (List α)) : Prop where
  nonempty : parts ≠ []
  apart : ∀ part ∈ parts, separator ∉ part
  joined : [separator].intercalate parts = text

/-- The first part ends at the first separator, and the others are those of the rest. -/
theorem not_mem_of_mem_splitOn {text part : List α} (h : part ∈ text.splitOn separator) :
    separator ∉ part := by
  by_cases hmem : separator ∈ text
  · obtain ⟨first, rest, htext, hfirst⟩ := List.eq_append_cons_of_mem hmem
    rw [htext, List.splitOn_append_cons_self_of_not_mem hfirst] at h
    rcases List.mem_cons.1 h with rfl | hrest
    · exact hfirst
    · exact not_mem_of_mem_splitOn hrest
  · rw [List.splitOn_eq_singleton hmem, List.mem_singleton] at h
    rwa [h]
termination_by text.length
decreasing_by
  rw [htext, List.length_append, List.length_cons]
  omega

/-- `List.splitOn` finds the parts, and there is one way to part a text. -/
theorem splits_iff {text : List α} {parts : List (List α)} :
    Splits separator text parts ↔ text.splitOn separator = parts := by
  constructor
  · intro h
    obtain ⟨hnonempty, hapart, rfl⟩ := h
    exact List.splitOn_intercalate separator hapart hnonempty
  · rintro rfl
    exact ⟨List.splitOn_ne_nil separator text, fun _ => not_mem_of_mem_splitOn,
      List.intercalate_splitOn separator⟩

omit [DecidableEq α] in
/-- The last part follows a separator if it is not the only one. -/
theorem Splits.last {text last : List α} {parts : List (List α)}
    (h : Splits separator text (parts ++ [last])) (hne : parts ≠ []) :
    ∃ before, text = before ++ separator :: last := by
  rw [← h.joined]
  clear h
  induction parts with
  | nil => exact absurd rfl hne
  | cons part parts ih =>
      cases parts with
      | nil => exact ⟨part, by simp⟩
      | cons next parts =>
          obtain ⟨before, hbefore⟩ := ih (List.cons_ne_nil _ _)
          refine ⟨part ++ separator :: before, ?_⟩
          rw [List.cons_append, List.cons_append, List.intercalate_cons_cons,
            ← List.cons_append, hbefore, List.append_assoc, List.append_assoc]
          rfl

/-- The first part and the rest are determined by the text. -/
theorem append_separator_inj {first second rest more : List α} (hfirst : separator ∉ first)
    (hsecond : separator ∉ second) :
    first ++ separator :: rest = second ++ separator :: more ↔ first = second ∧ rest = more := by
  constructor
  · intro h
    have hparts := congrArg (List.splitOn separator) h
    rw [List.splitOn_append_cons_self_of_not_mem hfirst,
      List.splitOn_append_cons_self_of_not_mem hsecond, List.cons.injEq] at hparts
    obtain ⟨rfl, _⟩ := hparts
    exact ⟨rfl, (List.cons.inj (List.append_cancel_left h)).2⟩
  · rintro ⟨rfl, rfl⟩
    rfl

omit [DecidableEq α] in
/-- A suffix without a separator is one of the last part. -/
theorem suffix_of_not_mem {suffix before last : List α}
    (h : suffix <:+ before ++ separator :: last) (hnot : separator ∉ suffix) : suffix <:+ last := by
  rcases List.suffix_or_suffix_of_suffix h (List.suffix_append before _) with hshort | hlong
  · rcases List.suffix_cons_iff.1 hshort with rfl | hlast
    · exact absurd List.mem_cons_self hnot
    · exact hlast
  · exact absurd (hlong.subset List.mem_cons_self) hnot

/-! ## Parts from the right -/

/-- The text before and after its last separator. -/
def splitLast (separator : α) : List α → Option (List α × List α)
  | [] => none
  | symbol :: text =>
      match splitLast separator text with
      | some (before, after) => some (symbol :: before, after)
      | none => if symbol = separator then some ([], text) else none

theorem splitLast_eq_none {text : List α} :
    splitLast separator text = none ↔ separator ∉ text := by
  induction text with
  | nil => exact iff_of_true rfl List.not_mem_nil
  | cons symbol text ih =>
      rw [splitLast, List.mem_cons, not_or, ← ih, eq_comm]
      cases splitLast separator text <;> simp [eq_comm]

/-- The last separator divides the text. -/
theorem splitLast_append {before after : List α} (h : separator ∉ after) :
    splitLast separator (before ++ separator :: after) = some (before, after) := by
  induction before with
  | nil => rw [List.nil_append, splitLast, splitLast_eq_none.2 h, if_pos rfl]
  | cons symbol before ih => rw [List.cons_append, splitLast, ih]

/-- A text is divided at its last separator. -/
theorem splitLast_eq_some {text before after : List α} :
    splitLast separator text = some (before, after) ↔
      text = before ++ separator :: after ∧ separator ∉ after := by
  constructor
  · intro h
    induction text generalizing before with
    | nil => cases h
    | cons symbol text ih =>
        rw [splitLast] at h
        cases hlast : splitLast separator text with
        | some parts =>
            obtain ⟨start, rest⟩ := parts
            rw [hlast] at h
            cases h
            obtain ⟨htext, hafter⟩ := ih hlast
            exact ⟨by rw [htext, List.cons_append], hafter⟩
        | none =>
            rw [hlast] at h
            split_ifs at h with hsymbol
            cases h
            exact ⟨by rw [hsymbol, List.nil_append], splitLast_eq_none.1 hlast⟩
  · rintro ⟨rfl, hafter⟩
    exact splitLast_append hafter

/-- At most `count` parts, from the right. The last of `count` parts is the text before the
others. -/
def rsplitn (separator : α) : Nat → List α → List (List α)
  | 0, _ => []
  | 1, text => [text]
  | count + 2, text =>
      match splitLast separator text with
      | some (before, after) => after :: rsplitn separator (count + 1) before
      | none => [text]

/-- The parts that are found when there are enough. -/
theorem rsplitn_eq_iff {fields : List (List α)} {rest text : List α} :
    rsplitn separator (fields.length + 1) text = fields ++ [rest] ↔
      (∀ field ∈ fields, separator ∉ field) ∧
        text = rest ++ fields.reverse.flatMap (separator :: ·) := by
  induction fields generalizing text with
  | nil => simp [rsplitn]
  | cons field fields ih =>
      rw [List.length_cons, rsplitn, List.cons_append, List.reverse_cons, List.flatMap_append,
        List.flatMap_singleton, ← List.append_assoc, List.forall_mem_cons]
      cases hlast : splitLast separator text with
      | some parts =>
          obtain ⟨before, after⟩ := parts
          obtain ⟨htext, hafter⟩ := splitLast_eq_some.1 hlast
          dsimp only
          rw [List.cons.injEq, ih]
          constructor
          · intro h
            obtain ⟨rfl, hfields, rfl⟩ := h
            exact ⟨⟨hafter, hfields⟩, htext⟩
          · intro h
            obtain ⟨⟨hfield, hfields⟩, hjoined⟩ := h
            cases hlast.symm.trans (splitLast_eq_some.2 ⟨hjoined, hfield⟩)
            exact ⟨rfl, hfields, rfl⟩
      | none =>
          refine iff_of_false (by simp) ?_
          intro h
          obtain ⟨⟨hfield, _⟩, hjoined⟩ := h
          cases hlast.symm.trans (splitLast_eq_some.2 ⟨hjoined, hfield⟩)

end TwEinvoice.Parsing
