import TwEinvoice.Xml.Reader
import Mathlib.Data.List.Nodup

/-!
# Sequences of elements

A record is written as a sequence of elements in a fixed order, in which some may be missing and
some may be repeated. A reader of such a sequence decides by the next tag. `Takes` says what a
reader takes and with which tags that may begin, given the tags that may come after it, so that
a whole sequence is verified element by element from its end.
-/

namespace TwEinvoice.Xml

open Parsing

variable {α β : Type}

/-- A name that ends before the `>` of its tag. -/
def IsName (name : String) : Prop := '>' ∉ name.toList

instance : DecidablePred IsName := fun name => inferInstanceAs (Decidable ('>' ∉ name.toList))

/-- The rest begins with the tag of one of the names. The tag that ends an element has the name of
the element after a slash. -/
def Starts (names : List String) (rest : List Char) : Prop :=
  ∃ name ∈ names, IsName name ∧ ∃ more, rest = (startTag name).toList ++ more

/-- More names may start the rest. -/
theorem Starts.mono {names others : List String} {rest : List Char} (h : Starts names rest)
    (hsub : names ⊆ others) : Starts others rest := by
  obtain ⟨name, hmem, hname, hrest⟩ := h
  exact ⟨name, hsub hmem, hname, hrest⟩

/-- An end tag is a start tag whose name has a slash. -/
theorem endTag_eq_startTag (name : String) : endTag name = startTag ("/" ++ name) := by
  apply String.toList_injective
  simp [endTag, startTag]

/-- A start tag is not the beginning of the tag of another name. -/
theorem startTag_not_start {name other : String} (hname : IsName name) (hother : IsName other)
    (hne : name ≠ other) (more : List Char) :
    ¬ (startTag name).toList.isPrefixOf ((startTag other).toList ++ more) = true := by
  intro hprefix
  obtain ⟨rest, hrest⟩ := List.isPrefixOf_iff_prefix.1 hprefix
  have hsplit : name.toList ++ '>' :: rest = other.toList ++ '>' :: more := by
    simpa [startTag] using hrest
  -- A name is what precedes the first `>`.
  have htake : ∀ (text : String) more, IsName text →
      (text.toList ++ '>' :: more).takeWhile (· != '>') = text.toList := by
    intro text more htext
    have hall : ∀ c ∈ text.toList, (c != '>') = true := by
      intro c hc
      rw [bne_iff_ne]
      rintro rfl
      exact htext hc
    rw [List.takeWhile_append_of_pos hall, List.takeWhile_cons_of_neg (by simp), List.append_nil]
  have hequal := congrArg (List.takeWhile (· != '>')) hsplit
  rw [htake name rest hname, htake other more hother] at hequal
  exact hne (String.toList_injective hequal)

/-- Reading a tag fails before every other tag. -/
theorem tag_before_other {name : String} {names : List String} {rest : List Char}
    (hname : IsName name) (hnot : name ∉ names) (hrest : Starts names rest) :
    Reader.tag (startTag name) rest = none := by
  obtain ⟨other, hmem, hother, more, rfl⟩ := hrest
  have hne : name ≠ other := fun heq => hnot (heq ▸ hmem)
  have hspaces := @reads_spaces [] rfl ((startTag other).toList ++ more) (by
    rw [startTag_toList]
    exact stopsWith_cons rfl _)
  show Parsing.Reader.bind Reader.spaces (fun _ => Parsing.Reader.literal _) _ = none
  rw [Parsing.Reader.bind, ← List.nil_append ((startTag other).toList ++ more), hspaces]
  exact if_neg (startTag_not_start hname hother hne more)

/-- A reader that fails makes what begins with it fail. -/
theorem bind_eq_none {reader : Reader α} {next : α → Reader β} {rest : List Char}
    (h : reader rest = none) : (reader >>= next) rest = none := by
  show Parsing.Reader.bind reader next rest = none
  rw [Parsing.Reader.bind, h]

/-! ## What a reader of a sequence takes -/

/-- Before a rest that begins with a tag of `after`, the reader takes the symbols and returns the
value, and symbols and rest together begin with a tag of `first`. -/
structure Takes (first after : List String) (reader : Reader α) (symbols : List Char)
    (value : α) : Prop where
  reads : ReadsBefore (Starts after) reader symbols value
  starts : ∀ rest, Starts after rest → Starts first (symbols ++ rest)

theorem Takes.pure (names : List String) (value : α) :
    Takes names names (pure value : Reader α) [] value where
  reads := (reads_pure value).before
  starts _ hrest := hrest

/-- Readers one after the other take one text after the other. -/
theorem Takes.bind {first middle after : List String} {reader : Reader α} {next : α → Reader β}
    {symbols more : List Char} {value : α} {result : β}
    (h : Takes first middle reader symbols value)
    (hnext : Takes middle after (next value) more result) :
    Takes first after (reader >>= next) (symbols ++ more) result where
  reads rest hrest := by
    show Parsing.Reader.bind reader next _ = _
    rw [Parsing.Reader.bind, List.append_assoc, h.reads _ (hnext.starts rest hrest)]
    exact hnext.reads rest hrest
  starts rest hrest := by
    rw [List.append_assoc]
    exact h.starts _ (hnext.starts rest hrest)

/-- A reader whose value is then converted. -/
theorem Takes.converts {first after : List String} {reader : Reader α} {next : α → Reader β}
    {symbols : List Char} {value : α} {result : β} (h : Takes first after reader symbols value)
    (hnext : Reads (next value) [] result) :
    Takes first after (reader >>= next) symbols result where
  reads := h.reads.bindNil hnext
  starts := h.starts

/-- A single tag. -/
theorem takes_tag {name : String} (hname : IsName name) (after : List String) :
    Takes [name] after (Reader.tag (startTag name)) (startTag name).toList () where
  reads := (reads_startTag [] rfl name).before
  starts rest _ := ⟨name, List.mem_singleton_self name, hname, rest, rfl⟩

/-- The element that holds a text. -/
def Escaping.element (escaping : Escaping endsText) (name text : String) : List Char :=
  (startTag name).toList ++ (text.toList.flatMap escaping.escape ++ (endTag name).toList)

/-- An element that holds text. -/
theorem takes_leaf (escaping : Escaping endsText) {name : String} (hname : IsName name)
    (after : List String) (text : String) :
    Takes [name] after (Reader.leaf name) (escaping.element name text) text where
  reads := (reads_leaf [] rfl escaping name text).before
  starts _ _ := ⟨name, List.mem_singleton_self name, hname, _, List.append_assoc ..⟩

/-- A reader that fails before every tag but this one. -/
def DecidedBy (name : String) (reader : Reader α) : Prop :=
  ∀ rest, Reader.tag (startTag name) rest = none → reader rest = none

/-- The first reader of a sequence decides. -/
theorem decidedBy_bind {name : String} {reader : Reader α} {next : α → Reader β}
    (h : DecidedBy name reader) : DecidedBy name (reader >>= next) :=
  fun rest hrest => bind_eq_none (h rest hrest)

theorem decidedBy_tag (name : String) : DecidedBy name (Reader.tag (startTag name)) :=
  fun _ hrest => hrest

theorem decidedBy_leaf (name : String) : DecidedBy name (Reader.leaf name) :=
  decidedBy_bind (decidedBy_tag name)

/-- An element that may be missing, if the tag that follows it is not its own. -/
theorem takes_optional {name : String} {after : List String} {reader : Reader α}
    {write : α → List Char} (hname : IsName name) (hnot : name ∉ after)
    (hdecided : DecidedBy name reader)
    (h : ∀ value, Takes [name] after reader (write value) value) (value : Option α) :
    Takes (name :: after) after (Reader.optional reader) (value.elim [] write) value := by
  cases value with
  | none =>
      refine ⟨fun rest hrest => ?_, fun rest hrest => ?_⟩
      · exact reads_optional_none reader rest (hdecided rest (tag_before_other hname hnot hrest))
      · exact hrest.mono (List.subset_cons_self name after)
  | some value =>
      refine ⟨fun rest hrest => ?_, fun rest hrest => ?_⟩
      · show Reader.optional reader (write value ++ rest) = _
        rw [Reader.optional, (h value).reads rest hrest]
      · exact ((h value).starts rest hrest).mono (by simp)

/-! ## Repeated elements -/

namespace Reader

/-- Read items as long as there are any, at most so many. -/
def itemsUpTo (item : Reader α) : Nat → Reader (List α)
  | 0 => pure []
  | fuel + 1 => do
      match ← optional item with
      | none => return []
      | some value => return value :: (← itemsUpTo item fuel)

/-- Read items as long as there are any. -/
def items (item : Reader α) : Reader (List α) := fun input => itemsUpTo item input.length input

end Reader

/-- Elements that are repeated, if the tag that follows them is not theirs. -/
theorem takes_items {name : String} {after : List String} {item : Reader α}
    {write : α → List Char} (hname : IsName name) (hnot : name ∉ after)
    (hdecided : DecidedBy name item) (hpos : ∀ value, write value ≠ [])
    (h : ∀ value, Takes [name] (name :: after) item (write value) value) (values : List α) :
    Takes (name :: after) after (Reader.items item) (values.flatMap write) values := by
  have hstarts : ∀ (values : List α) rest, Starts after rest →
      Starts (name :: after) (values.flatMap write ++ rest) := by
    intro values
    induction values with
    | nil => exact fun rest hrest => hrest.mono (List.subset_cons_self name after)
    | cons value values ih =>
        intro rest hrest
        rw [List.flatMap_cons, List.append_assoc]
        exact ((h value).starts _ (ih rest hrest)).mono (by simp)
  have hreads : ∀ (values : List α) rest fuel, Starts after rest → values.length ≤ fuel →
      Reader.itemsUpTo item fuel (values.flatMap write ++ rest) = some (values, rest) := by
    intro values
    induction values with
    | nil =>
        intro rest fuel hrest hfuel
        cases fuel with
        | zero => rfl
        | succ fuel =>
            -- The tag that follows is not that of an item, which ends the list.
            have hnone : Reader.optional item rest = some (none, rest) :=
              reads_optional_none item rest (hdecided rest (tag_before_other hname hnot hrest))
            show Parsing.Reader.bind (Reader.optional item) _ rest = _
            rw [Parsing.Reader.bind, hnone]
            rfl
    | cons value values ih =>
        intro rest fuel hrest hfuel
        obtain ⟨fuel, rfl⟩ := Nat.exists_eq_add_one_of_ne_zero
          (show fuel ≠ 0 by rw [List.length_cons] at hfuel; omega)
        rw [List.length_cons] at hfuel
        have hsome : Reader.optional item (write value ++ (values.flatMap write ++ rest)) =
            some (some value, values.flatMap write ++ rest) := by
          rw [Reader.optional, (h value).reads _ (hstarts values rest hrest)]
        show Parsing.Reader.bind (Reader.optional item) _ _ = _
        rw [List.flatMap_cons, List.append_assoc, Parsing.Reader.bind, hsome]
        show Parsing.Reader.bind (Reader.itemsUpTo item fuel) _ _ = _
        rw [Parsing.Reader.bind, ih rest fuel hrest (by omega)]
        rfl
  -- The reader has as much fuel as there are characters, and every item takes at least one.
  have hlength : values.length ≤ (values.flatMap write).length := by
    induction values with
    | nil => exact Nat.le_refl 0
    | cons value values ih =>
        have hwrite := List.length_pos_iff.2 (hpos value)
        rw [List.flatMap_cons, List.length_append, List.length_cons]
        omega
  refine ⟨fun rest hrest => hreads values rest _ hrest ?_, hstarts values⟩
  rw [List.length_append]
  omega

/-! ## Values that are written as text -/

/-- How a value is written as text and read from it. -/
structure TextForm (α : Type) where
  wire : α → String
  fromWire : String → Option α
  fromWire_wire : ∀ value, fromWire (wire value) = some value

/-- Any text. -/
def TextForm.plain : TextForm String where
  wire := id
  fromWire := some
  fromWire_wire _ := rfl

/-- One of all the values, each with its own text. -/
def TextForm.oneOf (values : List α) (wire : α → String) (hmem : ∀ value, value ∈ values)
    (hwire : Function.Injective wire) : TextForm α where
  wire := wire
  fromWire text := values.find? fun value => wire value = text
  fromWire_wire value := by
    have hsome : (values.find? fun other => wire other = wire value).isSome :=
      List.find?_isSome.2 ⟨value, hmem value, decide_eq_true rfl⟩
    obtain ⟨other, hother⟩ := Option.isSome_iff_exists.1 hsome
    have hfound := List.find?_some hother
    rw [hother, hwire (of_decide_eq_true hfound)]

/-- Values whose texts are listed without repetition. -/
theorem wire_injective {values : List α} {wire : α → String} (hmem : ∀ value, value ∈ values)
    (hnodup : (values.map wire).Nodup) : Function.Injective wire :=
  fun value other h => List.inj_on_of_nodup_map hnodup (hmem value) (hmem other) h

/-- Read an element that holds the text of a value. -/
def Reader.element (form : TextForm α) (name : String) : Reader α := do
  let text ← leaf name
  match form.fromWire text with
  | some value => return value
  | none => Parsing.Reader.reject

/-- An element takes its own text, and no more. -/
theorem takes_element (escaping : Escaping endsText) (form : TextForm α) {name : String}
    (hname : IsName name) (after : List String) (value : α) :
    Takes [name] after (Reader.element form name) (escaping.element name (form.wire value))
      value := by
  refine (takes_leaf escaping hname after (form.wire value)).converts ?_
  rw [form.fromWire_wire]
  exact reads_pure value

theorem decidedBy_element (form : TextForm α) (name : String) :
    DecidedBy name (Reader.element form name) :=
  decidedBy_bind (decidedBy_leaf name)

end TwEinvoice.Xml
