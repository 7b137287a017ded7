import TwEinvoice.Parsing.Reader

/-!
# Reading XML

Readers for the part of XML that a record format needs: start and end tags, attributes, text
and the five predefined entities, with white space between the tags. An `Escaping` is a way to
write characters that `unescape` undoes and that never writes the character that ends the text.
-/

namespace TwEinvoice.Xml

open Parsing

/-- A reader of characters. -/
abbrev Reader := Parsing.Reader Char

variable {α : Type}

/-! ## Entities -/

/-- Replace the predefined entities. No other entity or bare ampersand is accepted. -/
def unescape : List Char → Option (List Char)
  | [] => some []
  | '&' :: 'a' :: 'm' :: 'p' :: ';' :: rest => (unescape rest).map ('&' :: ·)
  | '&' :: 'l' :: 't' :: ';' :: rest => (unescape rest).map ('<' :: ·)
  | '&' :: 'g' :: 't' :: ';' :: rest => (unescape rest).map ('>' :: ·)
  | '&' :: 'q' :: 'u' :: 'o' :: 't' :: ';' :: rest => (unescape rest).map ('"' :: ·)
  | '&' :: 'a' :: 'p' :: 'o' :: 's' :: ';' :: rest => (unescape rest).map ('\'' :: ·)
  | '&' :: _ => none
  | c :: rest => (unescape rest).map (c :: ·)

/-- A character that starts no reference stands for itself. -/
theorem unescape_cons {c : Char} (h : c ≠ '&') (rest : List Char) :
    unescape (c :: rest) = (unescape rest).map (c :: ·) := by
  rw [unescape] <;> simp [h]

/-- A way to write characters in text that ends before a character that stops it. -/
structure Escaping (stop : Char → Bool) where
  escape : Char → List Char
  unescape_escape : ∀ c rest, unescape (escape c ++ rest) = (unescape rest).map (c :: ·)
  not_stop : ∀ c, ∀ symbol ∈ escape c, stop symbol = false

/-- Escaped text denotes the text. -/
theorem Escaping.unescape_flatMap {stop : Char → Bool} (escaping : Escaping stop)
    (text : List Char) : unescape (text.flatMap escaping.escape) = some text := by
  induction text with
  | nil => rw [List.flatMap_nil, unescape]
  | cons c text ih => rw [List.flatMap_cons, escaping.unescape_escape, ih, Option.map_some]

/-- What is escaped does not stop the reader. -/
theorem Escaping.flatMap_not_stop {stop : Char → Bool} (escaping : Escaping stop)
    (text : List Char) : ∀ symbol ∈ text.flatMap escaping.escape, stop symbol = false := by
  intro symbol hsymbol
  obtain ⟨c, _, hc⟩ := List.mem_flatMap.1 hsymbol
  exact escaping.not_stop c symbol hc

/-! ## Tags and text -/

/-- White space of XML. -/
def isSpace (c : Char) : Bool := c = ' ' ∨ c = '\n' ∨ c = '\t' ∨ c = '\r'

/-- What ends text: the next tag. -/
def endsText (c : Char) : Bool := c = '<'

/-- What ends an attribute value: the quote. A `<` is not allowed in it. -/
def endsValue (c : Char) : Bool := c = '"' ∨ c = '<'

/-- A start tag without attributes. -/
def startTag (name : String) : String := "<" ++ name ++ ">"

/-- An end tag. -/
def endTag (name : String) : String := "</" ++ name ++ ">"

theorem startTag_toList (name : String) :
    (startTag name).toList = '<' :: (name.toList ++ ['>']) := by
  simp [startTag]

theorem endTag_toList (name : String) :
    (endTag name).toList = '<' :: '/' :: (name.toList ++ ['>']) := by
  simp [endTag]

namespace Reader

open Parsing.Reader (until_ reject literal)

/-- Read characters up to one that stops, and replace the entities. -/
def escaped (stop : Char → Bool) : Reader String := do
  let raw ← until_ stop
  match unescape raw with
  | some text => return String.ofList text
  | none => reject

/-- Read past white space. -/
def spaces : Reader Unit := do
  let _ ← until_ fun c => !isSpace c

/-- Read past white space and then something. -/
def spaced (reader : Reader α) : Reader α := do
  spaces
  reader

/-- Read this tag, which is given as it is written. -/
def tag (text : String) : Reader Unit := spaced (literal text.toList)

/-- Read an element that holds text only. -/
def leaf (name : String) : Reader String := do
  tag (startTag name)
  let text ← escaped endsText
  literal (endTag name).toList
  return text

/-- Read something if it is there. -/
def optional (reader : Reader α) : Reader (Option α) := fun input =>
  match reader input with
  | some (value, rest) => some (some value, rest)
  | none => some (none, input)

/-- Read an attribute with a quoted value. -/
def quoted (name : String) : Reader String := do
  tag (name ++ "=\"")
  let value ← escaped endsValue
  literal ['"']
  return value

/-- Read a decimal number. -/
def decimal (text : String) : Reader Nat :=
  if text.toList ≠ [] ∧ text.toList.all Char.isDigit then
    return Nat.ofDigitChars 10 text.toList 0
  else reject

end Reader

/-! ## What the readers take -/

/-- Whether a rest begins with a character that stops. -/
def StopsWith (stop : Char → Bool) (rest : List Char) : Prop :=
  ∃ symbol more, rest = symbol :: more ∧ stop symbol = true

theorem stopsWith_cons {stop : Char → Bool} {symbol : Char} (h : stop symbol = true)
    (more : List Char) : StopsWith stop (symbol :: more) :=
  ⟨symbol, more, rfl, h⟩

/-- A text that was escaped is read back, up to the character that stops. -/
theorem reads_escaped {stop : Char → Bool} (escaping : Escaping stop) (text : String) :
    ReadsBefore (StopsWith stop) (Reader.escaped stop) (text.toList.flatMap escaping.escape)
      text := by
  refine (reads_until (escaping.flatMap_not_stop text.toList)).bindNil ?_
  rw [escaping.unescape_flatMap]
  show Reads (pure (String.ofList text.toList)) [] text
  rw [String.ofList_toList]
  exact reads_pure text

theorem reads_spaces {white : List Char} (hwhite : white.all isSpace = true) :
    ReadsBefore (StopsWith (!isSpace ·)) Reader.spaces white () := by
  refine (reads_until fun symbol hsymbol => ?_).bindNil (reads_pure ())
  simpa using List.all_eq_true.1 hwhite symbol hsymbol

/-- White space before something that does not begin with white space. -/
theorem reads_spaced {reader : Reader α} {white symbols : List Char} {value : α}
    (hwhite : white.all isSpace = true) (hstart : StopsWith (!isSpace ·) symbols)
    (h : Reads reader symbols value) : Reads (Reader.spaced reader) (white ++ symbols) value := by
  refine (reads_spaces hwhite).bind (fun rest => ?_) h
  obtain ⟨symbol, more, rfl, hsymbol⟩ := hstart
  exact stopsWith_cons hsymbol _

/-- A tag, whose first character is not white space. -/
theorem reads_tag (white : List Char) {text : String} (hwhite : white.all isSpace = true)
    (hstart : StopsWith (!isSpace ·) text.toList) :
    Reads (Reader.tag text) (white ++ text.toList) () :=
  reads_spaced hwhite hstart (reads_literal text.toList)

/-- A start tag is read behind white space. -/
theorem reads_startTag (white : List Char) (hwhite : white.all isSpace = true) (name : String) :
    Reads (Reader.tag (startTag name)) (white ++ (startTag name).toList) () :=
  reads_tag white hwhite ⟨'<', _, startTag_toList name, by decide⟩

theorem reads_endTag (white : List Char) (hwhite : white.all isSpace = true) (name : String) :
    Reads (Reader.tag (endTag name)) (white ++ (endTag name).toList) () :=
  reads_tag white hwhite ⟨'<', _, endTag_toList name, by decide⟩

/-- An element that holds escaped text. -/
theorem reads_leaf (white : List Char) (hwhite : white.all isSpace = true)
    (escaping : Escaping endsText) (name text : String) :
    Reads (Reader.leaf name)
      (white ++ (startTag name).toList ++
        (text.toList.flatMap escaping.escape ++ (endTag name).toList)) text := by
  refine (reads_startTag white hwhite name).bind
    ((reads_escaped escaping text).bind (fun rest => ?_) ?_)
  · exact ⟨'<', _, by rw [endTag_toList, List.cons_append], by decide⟩
  · exact (reads_literal _).bindNil (reads_pure text)

/-- There is no further element before an end tag. -/
theorem leaf_before_end (white : List Char) (hwhite : white.all isSpace = true) {name : String}
    (hname : name.toList.head? ≠ some '/') (rest : List Char) :
    Reader.leaf name (white ++ '<' :: '/' :: rest) = none := by
  have hspaces := reads_spaces hwhite ('<' :: '/' :: rest) (stopsWith_cons (by decide) _)
  have hprefix : ¬ (startTag name).toList.isPrefixOf ('<' :: '/' :: rest) = true := by
    intro hprefix
    obtain ⟨more, hmore⟩ := List.isPrefixOf_iff_prefix.1 hprefix
    rw [startTag_toList, List.cons_append, List.append_assoc, List.cons.injEq] at hmore
    cases hsymbols : name.toList with
    | nil => simp [hsymbols] at hmore
    | cons symbol symbols =>
        rw [hsymbols, List.cons_append, List.cons.injEq] at hmore
        exact hname (by rw [hsymbols, List.head?_cons, hmore.2.1])
  have htag : Reader.tag (startTag name) (white ++ '<' :: '/' :: rest) = none := by
    show Parsing.Reader.bind Reader.spaces (fun _ => Parsing.Reader.literal _) _ = none
    rw [Parsing.Reader.bind, hspaces]
    exact if_neg hprefix
  show Parsing.Reader.bind (Reader.tag (startTag name)) _ _ = none
  rw [Parsing.Reader.bind, htag]

/-- An attribute that holds an escaped value. -/
theorem reads_quoted (white : List Char) (hwhite : white.all isSpace = true)
    (escaping : Escaping endsValue) (name : String)
    (hname : StopsWith (!isSpace ·) name.toList) (value : String) :
    Reads (Reader.quoted name)
      (white ++ (name ++ "=\"").toList ++ (value.toList.flatMap escaping.escape ++ ['"']))
      value := by
  have hstart : StopsWith (!isSpace ·) (name ++ "=\"").toList := by
    obtain ⟨symbol, more, hsymbols, hsymbol⟩ := hname
    exact ⟨symbol, more ++ ['=', '"'], by simp [hsymbols], hsymbol⟩
  refine (reads_tag white hwhite hstart).bind
    ((reads_escaped escaping value).bind (fun rest => ?_) ?_)
  · exact stopsWith_cons (by decide) rest
  · exact (reads_literal _).bindNil (reads_pure value)

/-- Something that is there. -/
theorem reads_optional_some {reader : Reader α} {symbols : List Char} {value : α}
    (h : Reads reader symbols value) : Reads (Reader.optional reader) symbols (some value) := by
  intro rest
  rw [Reader.optional, h rest]

/-- Something that is not there. -/
theorem reads_optional_none (reader : Reader α) :
    ReadsBefore (reader · = none) (Reader.optional reader) [] none := by
  intro rest hrest
  rw [List.nil_append, Reader.optional, hrest]

/-- A number as it is displayed. -/
theorem reads_decimal (number : Nat) : Reads (Reader.decimal (toString number)) [] number := by
  have hdigits : (toString number).toList = Nat.toDigits 10 number := Nat.toList_repr
  have hall : (Nat.toDigits 10 number).all Char.isDigit = true :=
    List.all_eq_true.2 fun c hc => Nat.isDigit_of_mem_toDigits (by omega) (by omega) hc
  rw [Reader.decimal, hdigits, if_pos ⟨Nat.toDigits_ne_nil, hall⟩, Nat.ofDigitChars_ten_toDigits]
  exact reads_pure number

end TwEinvoice.Xml
