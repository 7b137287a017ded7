import Mathlib.Data.List.Basic

/-!
# Readers

A reader takes symbols from the front of its input and returns a value with the rest, or fails.
`Reads` says which symbols a reader takes whatever follows them, `ReadsBefore` the same for
inputs whose rest satisfies a condition, such as the end of the element that is being read. The
two compose along `>>=`, so that what a reader of a whole format takes is proved field by field.
-/

namespace TwEinvoice.Parsing

/-- A reader of symbols. -/
def Reader (τ α : Type) := List τ → Option (α × List τ)

variable {τ α β : Type}

namespace Reader

/-- Read nothing. -/
def pure (value : α) : Reader τ α := fun input => some (value, input)

/-- Read one thing and then another. -/
def bind (reader : Reader τ α) (next : α → Reader τ β) : Reader τ β := fun input =>
  match reader input with
  | some (value, rest) => next value rest
  | none => none

instance : Monad (Reader τ) where
  pure := pure
  bind := bind

/-- Fail. -/
def reject : Reader τ α := fun _ => none

/-- Fail unless the condition holds. -/
def require (condition : Bool) : Reader τ Unit := if condition then pure () else reject

/-- Read exactly these symbols. -/
def literal [DecidableEq τ] (symbols : List τ) : Reader τ Unit := fun input =>
  if symbols.isPrefixOf input then some ((), input.drop symbols.length) else none

/-- Read the symbols up to the first that satisfies the condition. -/
def until_ (stop : τ → Bool) : Reader τ (List τ) := fun input =>
  some (input.takeWhile (!stop ·), input.dropWhile (!stop ·))

end Reader

/-- Whatever follows, the reader takes these symbols and returns this value. -/
def Reads (reader : Reader τ α) (symbols : List τ) (value : α) : Prop :=
  ∀ rest, reader (symbols ++ rest) = some (value, rest)

/-- Before a rest that satisfies the condition, the reader takes these symbols and returns this
value. -/
def ReadsBefore (stop : List τ → Prop) (reader : Reader τ α) (symbols : List τ) (value : α) :
    Prop :=
  ∀ rest, stop rest → reader (symbols ++ rest) = some (value, rest)

theorem Reads.before {stop : List τ → Prop} {reader : Reader τ α} {symbols : List τ} {value : α}
    (h : Reads reader symbols value) : ReadsBefore stop reader symbols value :=
  fun rest _ => h rest

theorem reads_pure (value : α) : Reads (pure value : Reader τ α) [] value :=
  fun _ => rfl

theorem reads_require {condition : Bool} (h : condition = true) :
    Reads (Reader.require condition : Reader τ Unit) [] () := by
  intro rest
  rw [Reader.require, if_pos h]
  rfl

/-- Readers one after the other read texts one after the other. -/
theorem Reads.bind {reader : Reader τ α} {next : α → Reader τ β} {symbols more : List τ}
    {value : α} {result : β} (h : Reads reader symbols value)
    (hnext : Reads (next value) more result) :
    Reads (reader >>= next) (symbols ++ more) result := by
  intro rest
  show Reader.bind reader next _ = _
  rw [Reader.bind, List.append_assoc, h]
  exact hnext rest

/-- A reader followed by one that takes nothing. -/
theorem Reads.bindNil {reader : Reader τ α} {next : α → Reader τ β} {symbols : List τ} {value : α}
    {result : β} (h : Reads reader symbols value) (hnext : Reads (next value) [] result) :
    Reads (reader >>= next) symbols result := by
  have hbind := h.bind hnext
  rwa [List.append_nil] at hbind

/-- Only the last reader depends on what comes after. -/
theorem Reads.bindBefore {stop : List τ → Prop} {reader : Reader τ α} {next : α → Reader τ β}
    {symbols more : List τ} {value : α} {result : β} (h : Reads reader symbols value)
    (hnext : ReadsBefore stop (next value) more result) :
    ReadsBefore stop (reader >>= next) (symbols ++ more) result := by
  intro rest hrest
  show Reader.bind reader next _ = _
  rw [Reader.bind, List.append_assoc, h]
  exact hnext rest hrest

/-- A reader that needs to know what follows, followed by one that takes that. -/
theorem ReadsBefore.bind {stop : List τ → Prop} {reader : Reader τ α} {next : α → Reader τ β}
    {symbols more : List τ} {value : α} {result : β} (h : ReadsBefore stop reader symbols value)
    (hstop : ∀ rest, stop (more ++ rest)) (hnext : Reads (next value) more result) :
    Reads (reader >>= next) (symbols ++ more) result := by
  intro rest
  show Reader.bind reader next _ = _
  rw [Reader.bind, List.append_assoc, h _ (hstop rest)]
  exact hnext rest

/-- The same, followed by one that takes nothing. -/
theorem ReadsBefore.bindNil {stop : List τ → Prop} {reader : Reader τ α} {next : α → Reader τ β}
    {symbols : List τ} {value : α} {result : β} (h : ReadsBefore stop reader symbols value)
    (hnext : Reads (next value) [] result) : ReadsBefore stop (reader >>= next) symbols result := by
  intro rest hrest
  show Reader.bind reader next _ = _
  rw [Reader.bind, h _ hrest]
  exact hnext rest

/-- Given symbols are read as themselves. -/
theorem reads_literal [DecidableEq τ] (symbols : List τ) :
    Reads (Reader.literal symbols) symbols () := by
  intro rest
  have hprefix : symbols.isPrefixOf (symbols ++ rest) = true :=
    List.isPrefixOf_iff_prefix.2 (List.prefix_append symbols rest)
  rw [Reader.literal, if_pos hprefix, List.drop_left]

/-- Symbols that do not stop, before one that does. -/
theorem reads_until {stop : τ → Bool} {symbols : List τ}
    (h : ∀ symbol ∈ symbols, stop symbol = false) :
    ReadsBefore (fun rest => ∃ symbol more, rest = symbol :: more ∧ stop symbol = true)
      (Reader.until_ stop) symbols symbols := by
  rintro _ ⟨symbol, more, rfl, hsymbol⟩
  have htake : (symbols ++ symbol :: more).takeWhile (!stop ·) = symbols := by
    rw [List.takeWhile_append_of_pos (by simpa using h),
      List.takeWhile_cons_of_neg (by simp [hsymbol]), List.append_nil]
  have hdrop : (symbols ++ symbol :: more).dropWhile (!stop ·) = symbol :: more := by
    rw [List.dropWhile_append_of_pos (by simpa using h),
      List.dropWhile_cons_of_neg (by simp [hsymbol])]
  rw [Reader.until_, htake, hdrop]

end TwEinvoice.Parsing
