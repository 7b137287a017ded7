import TwEinvoice.Ber.Octets
import TwEinvoice.Parsing.Reader

/-!
# A reader for the Basic Encoding Rules

`Reader.element` reads one element in either form of BER: with a definite length, or constructed
with the indefinite length and closed by two zero octets. `ReadsContents` says which octets a
reader takes as the contents of an element, which end where the element does. Tags are in the
low-tag-number form of one octet.
-/

namespace TwEinvoice.Ber

open Parsing

/-- A reader of octets. -/
abbrev Reader := Parsing.Reader UInt8

variable {α β : Type}

/-- The length of an element. -/
inductive Length where
  | definite (count : Nat)
  | indefinite

/-- Read the length octets. -/
def Reader.length : Reader Length
  | [] => none
  | first :: rest =>
      if first < 0x80 then some (.definite first.toNat, rest)
      else if first = 0x80 then some (.indefinite, rest)
      else
        let count := first.toNat - 0x80
        -- 0xff is reserved
        if first = 0xff ∨ rest.length < count then none
        else some (.definite (ofBigEndian (rest.take count)), rest.drop count)

/-- Whether a tag is of a constructed element. -/
def isConstructed (tag : UInt8) : Bool := tag &&& 0x20 ≠ 0

/-- Whether the contents of an element end here. -/
def AtEnd (input : Octets) : Prop := input = [] ∨ ∃ rest, input = 0 :: 0 :: rest

namespace Reader

/-- Read the contents of an element after its tag. -/
def contents (constructed : Bool) (body : Reader α) : Reader α := fun input =>
  match length input with
  | some (.definite count, rest) =>
      if rest.length < count then none
      else
        match body (rest.take count) with
        | some (value, []) => some (value, rest.drop count)
        | _ => none
  | some (.indefinite, rest) =>
      if constructed then
        match body rest with
        | some (value, 0 :: 0 :: rest) => some (value, rest)
        | _ => none
      else none
  | none => none

/-- Read an element with this tag. -/
def element (tag : UInt8) (body : Reader α) : Reader α
  | [] => none
  | first :: rest => if first = tag then contents (isConstructed tag) body rest else none

/-- Read everything. -/
def all : Reader Octets := fun input => some (input, [])

/-- Read a primitive element with this tag. -/
def primitive (tag : UInt8) : Reader Octets := element tag all

/-- Read items up to the end of the contents. -/
def many (item : Reader α) : Nat → Reader (List α)
  | 0, _ => none
  | _ + 1, [] => some ([], [])
  | _ + 1, 0 :: 0 :: rest => some ([], 0 :: 0 :: rest)
  | fuel + 1, input =>
      match item input with
      | some (value, rest) =>
          match many item fuel rest with
          | some (values, rest) => some (value :: values, rest)
          | none => none
      | none => none

/-- Read as many items as there are. -/
def listOf (item : Reader α) : Reader (List α) := fun input => many item (input.length + 1) input

/-- Read past one element of any kind. Only the contents of an indefinite length are looked
into, because they say where it ends. -/
def skip : Nat → Reader Unit
  | 0, _ => none
  | _ + 1, [] => none
  | fuel + 1, tag :: rest =>
      match length rest with
      | some (.definite count, rest) =>
          if tag = 0 ∨ rest.length < count then none else some ((), rest.drop count)
      | some (.indefinite, rest) =>
          if isConstructed tag then
            match many (skip fuel) (rest.length + 1) rest with
            | some (_, 0 :: 0 :: rest) => some ((), rest)
            | _ => none
          else none
      | none => none

/-- Read one element of any kind and return its octets. -/
def any : Reader Octets := fun input =>
  match skip (input.length + 1) input with
  | some (_, rest) => some (input.take (input.length - rest.length), rest)
  | none => none

/-- The integer that octets denote in two's complement. -/
def ofTwosComplement : Octets → Int
  | [] => 0
  | first :: rest =>
      if first < 0x80 then ofBigEndian (first :: rest)
      else (ofBigEndian (first :: rest) : Int) - 256 ^ (rest.length + 1)

/-- Read an `INTEGER`. -/
def integer : Reader Int := do
  let octets ← primitive 0x02
  Parsing.Reader.require (octets ≠ [])
  return ofTwosComplement octets

end Reader

/-! ## Elements -/

/-- At the end of an element, the reader takes these octets and returns this value. -/
abbrev ReadsContents (reader : Reader α) (octets : Octets) (value : α) : Prop :=
  ReadsBefore AtEnd reader octets value

/-- The length octets are read in the same way whatever follows the input. -/
theorem length_append {input rest : Octets} {len : Length}
    (h : Reader.length input = some (len, rest)) (more : Octets) :
    Reader.length (input ++ more) = some (len, rest ++ more) := by
  cases input with
  | nil => cases h
  | cons first tail =>
      simp only [Reader.length, List.cons_append] at h ⊢
      split_ifs at h ⊢ with hshort hindefinite hread hlong hfits
      · simp_all
      · simp_all
      · rw [List.length_append] at hread
        exact absurd (hread.imp_right fun hlt => by omega) hlong
      · cases h
        have hcount := not_lt.1 fun hlt => hfits (.inr hlt)
        rw [List.take_append_of_le_length (by omega), List.drop_append_of_le_length (by omega)]

theorem element_cons (tag : UInt8) (body : Reader α) (input : Octets) :
    Reader.element tag body (tag :: input) = Reader.contents (isConstructed tag) body input :=
  if_pos rfl

/-- An element of definite length. -/
theorem reads_element {tag : UInt8} {body : Reader α} {input contents : Octets} {value : α}
    (hlength : Reader.length input = some (.definite contents.length, contents))
    (hbody : body contents = some (value, [])) :
    Reads (Reader.element tag body) (tag :: input) value := by
  intro rest
  rw [List.cons_append, element_cons, Reader.contents, length_append hlength rest]
  simp [hbody]

/-- A constructed element of indefinite length. -/
theorem reads_element_indefinite {tag : UInt8} {body : Reader α} {contents : Octets} {value : α}
    (htag : isConstructed tag) (hbody : ReadsContents body contents value) :
    Reads (Reader.element tag body) (tag :: 0x80 :: (contents ++ [0, 0])) value := by
  intro rest
  have hcontents := hbody (0 :: 0 :: rest) (.inr ⟨rest, rfl⟩)
  have hlength : Reader.length (0x80 :: (contents ++ [0, 0]) ++ rest) =
      some (.indefinite, contents ++ 0 :: 0 :: rest) := by
    simp [Reader.length]
  rw [List.cons_append, element_cons, Reader.contents, hlength]
  simp [htag, hcontents]

/-- An element whose first length octet is its length. -/
theorem length_short {length : UInt8} {contents : Octets} (hshort : length < 0x80)
    (hlength : length.toNat = contents.length) :
    Reader.length (length :: contents) = some (.definite contents.length, contents) := by
  rw [Reader.length, if_pos hshort, hlength]

/-- A primitive element. -/
theorem reads_primitive {tag : UInt8} {input contents : Octets}
    (hlength : Reader.length input = some (.definite contents.length, contents)) :
    Reads (Reader.primitive tag) (tag :: input) contents :=
  reads_element hlength rfl

/-- An element of some kind with a definite length. -/
def DefiniteElement (tag : UInt8) (octets : Octets) : Prop :=
  ∃ input contents, octets = tag :: input ∧
    Reader.length input = some (.definite contents.length, contents)

/-- A definite element is read as a whole. -/
theorem DefiniteElement.reads_any {tag : UInt8} {octets : Octets} (htag : tag ≠ 0)
    (h : DefiniteElement tag octets) : Reads Reader.any octets octets := by
  obtain ⟨input, contents, rfl, hlength⟩ := h
  intro rest
  have hskip : ∀ fuel, Reader.skip (fuel + 1) (tag :: (input ++ rest)) = some ((), rest) := by
    intro fuel
    rw [Reader.skip, length_append hlength rest]
    simp [htag]
  have htake : (tag :: (input ++ rest)).take
      ((tag :: (input ++ rest)).length - rest.length) = tag :: input := by
    rw [← List.cons_append, List.length_append, Nat.add_sub_cancel, List.take_left]
  rw [List.cons_append, Reader.any, hskip]
  simp only [htake]

/-- One more item, and then the others. -/
theorem many_cons {item : Reader α} {fuel : Nat} {chunk rest : Octets} {value : α} {tag : UInt8}
    {tail : Octets} (hchunk : chunk = tag :: tail) (htag : tag ≠ 0)
    (hitem : Reads item chunk value) :
    Reader.many item (fuel + 1) (chunk ++ rest) =
      match Reader.many item fuel rest with
      | some (values, rest) => some (value :: values, rest)
      | none => none := by
  have hread := hitem rest
  subst hchunk
  rw [List.cons_append] at hread ⊢
  rw [Reader.many, hread]
  · simp
  · intro other hother
    exact htag (List.cons.inj hother).1

theorem many_atEnd {item : Reader α} {fuel : Nat} {rest : Octets} (hrest : AtEnd rest) :
    Reader.many item (fuel + 1) rest = some ([], rest) := by
  obtain rfl | ⟨more, rfl⟩ := hrest <;> rfl

/-- Items one after another up to the end of the contents. -/
theorem readsContents_listOf {item : Reader α} {chunks : List Octets} {values : List α}
    (h : List.Forall₂ (fun chunk value => Reads item chunk value ∧
      ∃ tag tail, chunk = tag :: tail ∧ tag ≠ 0) chunks values) :
    ReadsContents (Reader.listOf item) chunks.flatten values := by
  intro rest hrest
  have hmany : ∀ fuel, chunks.flatten.length < fuel →
      Reader.many item fuel (chunks.flatten ++ rest) = some (values, rest) := by
    induction h with
    | nil =>
        intro fuel hfuel
        obtain ⟨fuel, rfl⟩ := Nat.exists_eq_add_one_of_ne_zero (by omega : fuel ≠ 0)
        exact many_atEnd hrest
    | @cons chunk value chunks values hhead _ ih =>
        intro fuel hfuel
        obtain ⟨hitem, tag, tail, hchunk, htag⟩ := hhead
        obtain ⟨fuel, rfl⟩ := Nat.exists_eq_add_one_of_ne_zero (by omega : fuel ≠ 0)
        have hlength : chunk.length = tail.length + 1 := by rw [hchunk, List.length_cons]
        rw [List.flatten_cons, List.length_append] at hfuel
        rw [List.flatten_cons, List.append_assoc, many_cons hchunk htag hitem,
          ih fuel (by omega)]
  exact hmany _ (by rw [List.length_append]; omega)

/-- One item and then the end of the contents. -/
theorem readsContents_one {item : Reader α} {octets : Octets} {value : α}
    (h : Reads item octets value) (htag : ∃ tag tail, octets = tag :: tail ∧ tag ≠ 0) :
    ReadsContents (Reader.listOf item) octets [value] := by
  have hitems := readsContents_listOf (.cons ⟨h, htag⟩ .nil)
  simpa using hitems

/-- An integer whose first octet has no sign bit. -/
theorem reads_integer {input contents : Octets}
    (hlength : Reader.length input = some (.definite contents.length, contents))
    (hne : contents ≠ []) (hsign : contents.headD 0 < 0x80) :
    Reads Reader.integer (0x02 :: input) (ofBigEndian contents) := by
  refine (reads_primitive hlength).bindNil ?_
  have hvalue : Reader.ofTwosComplement contents = ofBigEndian contents := by
    cases contents with
    | nil => exact absurd rfl hne
    | cons first rest => exact if_pos hsign
  rw [← hvalue]
  exact (reads_require (by simpa using hne)).bindNil (reads_pure _)

end TwEinvoice.Ber
