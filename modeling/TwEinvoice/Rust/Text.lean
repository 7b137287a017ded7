import Mathlib.Algebra.Group.Nat.Defs
import Mathlib.Data.List.Basic

/-!
# Text

The methods of `str` and `String` that the crates use. A Rust string is a `String`, its bytes
are a list of octets.
-/

namespace TwEinvoice.Rust

/-- `String::into_bytes`. -/
def intoBytes (text : String) : List UInt8 := text.toByteArray.data.toList

/-- `str::from_utf8(bytes).ok()`. -/
def fromUtf8 (bytes : List UInt8) : Option String := String.fromUTF8? ⟨bytes.toArray⟩

/-- The bytes of a string are its UTF-8 encoding. -/
theorem from_utf8_into_bytes (text : String) : fromUtf8 (intoBytes text) = some text := by
  have hvalid : ByteArray.IsValidUTF8 ⟨(intoBytes text).toArray⟩ := text.isValidUTF8
  rw [fromUtf8, String.fromUTF8?, dif_pos hvalid]
  rfl

theorem into_bytes_append (text more : String) :
    intoBytes (text ++ more) = intoBytes text ++ intoBytes more := by
  simp [intoBytes]

/-- `str::len`, in bytes. -/
def len (text : String) : Nat := (intoBytes text).length

/-- `u8::is_ascii_digit`. -/
def isAsciiDigit (byte : UInt8) : Bool := 48 ≤ byte ∧ byte ≤ 57

/-- `u8::is_ascii_uppercase`. -/
def isAsciiUppercase (byte : UInt8) : Bool := 65 ≤ byte ∧ byte ≤ 90

/-- `char::is_whitespace`, the property `White_Space` of Unicode. -/
def isWhitespace (character : Char) : Bool :=
  let code := character.toNat
  (9 ≤ code ∧ code ≤ 13) ∨ code = 0x20 ∨ code = 0x85 ∨ code = 0xA0 ∨ code = 0x1680 ∨
    (0x2000 ≤ code ∧ code ≤ 0x200A) ∨ code = 0x2028 ∨ code = 0x2029 ∨ code = 0x202F ∨
    code = 0x205F ∨ code = 0x3000

/-- `str::trim_start`. -/
def trimStart (text : String) : String :=
  String.ofList (text.toList.dropWhile isWhitespace)

/-- `str::starts_with`. -/
def startsWith (text pattern : String) : Bool :=
  pattern.toList.isPrefixOf text.toList

/-- `str::ends_with`. -/
def endsWith (text pattern : String) : Bool :=
  pattern.toList.isSuffixOf text.toList

/-- `str::replace("\r\n", "\n")`. -/
def replaceCrLf : List Char → List Char
  | [] => []
  | '\r' :: '\n' :: rest => '\n' :: replaceCrLf rest
  | character :: rest => character :: replaceCrLf rest

/-- `str::replace('\r', "\n")`. -/
def replaceCr (text : List Char) : List Char :=
  text.map fun character => if character = '\r' then '\n' else character

/-- `str::split_terminator`. -/
def splitTerminator (separator : Char) (text : List Char) : List (List Char) :=
  let parts := text.splitOn separator
  if parts.getLast? = some [] then parts.dropLast else parts

/-! ## Lines -/

/-- Parts that each get a line feed are the text that they are joined to, with one more. -/
theorem flatMap_line_feed {parts : List (List Char)} (hne : parts ≠ []) :
    parts.flatMap (fun line => line ++ ['\n']) = ['\n'].intercalate parts ++ ['\n'] := by
  induction parts with
  | nil => exact absurd rfl hne
  | cons part parts ih =>
      cases parts with
      | nil => simp
      | cons next parts =>
          rw [List.flatMap_cons, ih (List.cons_ne_nil _ _), List.intercalate_cons_cons]
          simp

/-- The lines that `split_terminator` yields, each with its line feed, are the text, with a line
feed at its end if it has none. -/
theorem split_terminator_flatMap {text : List Char} (hne : text ≠ []) :
    (splitTerminator '\n' text).flatMap (fun line => line ++ ['\n']) =
      if text.getLast? = some '\n' then text else text ++ ['\n'] := by
  have hparts := flatMap_line_feed (List.splitOn_ne_nil '\n' text)
  rw [List.intercalate_splitOn] at hparts
  rw [splitTerminator]
  split_ifs with hempty hlast hlast
  · -- The empty part after the last line feed is dropped.
    obtain ⟨before, rfl⟩ := List.getLast?_eq_some_iff.1 hlast
    rw [List.splitOn_append_cons_self, List.splitOn_nil, List.dropLast_concat,
      flatMap_line_feed (List.splitOn_ne_nil _ _), List.intercalate_splitOn]
  · -- Without its last part, which is empty, the text would end with a line feed.
    exfalso
    obtain ⟨before, hbefore⟩ := List.getLast?_eq_some_iff.1 hempty
    rw [hbefore, List.flatMap_append, List.flatMap_singleton, List.nil_append,
      List.append_cancel_right_eq] at hparts
    rcases List.eq_nil_or_concat before with rfl | ⟨before, part, rfl⟩
    · exact hne hparts.symm
    · refine hlast ?_
      rw [← hparts, List.concat_eq_append, List.flatMap_append, List.flatMap_singleton,
        ← List.append_assoc, List.getLast?_concat]
  · -- A text that ends with a line feed has an empty last part.
    exfalso
    obtain ⟨before, rfl⟩ := List.getLast?_eq_some_iff.1 hlast
    rw [List.splitOn_append_cons_self, List.splitOn_nil, List.getLast?_concat] at hempty
    exact hempty rfl
  · exact hparts

/-- Normalization keeps a last character that is not a line end. -/
theorem replace_cr_lf_concat (text : List Char) {last : Char} (h : last ≠ '\n') :
    replaceCrLf (text ++ [last]) = replaceCrLf text ++ [last] := by
  fun_induction replaceCrLf text with
  | case1 => simp [replaceCrLf]
  | case2 rest ih => rw [List.cons_append, List.cons_append, replaceCrLf, ih, List.cons_append]
  | case3 character rest hnot ih =>
      rw [List.cons_append, replaceCrLf, ih, List.cons_append]
      rintro rest' rfl hrest
      cases rest with
      | nil =>
          rw [List.nil_append, List.cons.injEq] at hrest
          exact h hrest.1
      | cons next rest =>
          rw [List.cons_append, List.cons.injEq] at hrest
          obtain ⟨rfl, _⟩ := hrest
          exact hnot rest rfl rfl

/-- Text without a carriage return is normalized already. -/
theorem replace_cr_lf_eq_self {text : List Char} (h : '\r' ∉ text) : replaceCrLf text = text := by
  fun_induction replaceCrLf text with
  | case1 => rfl
  | case2 rest ih => exact absurd List.mem_cons_self h
  | case3 character rest hnot ih => rw [ih fun hmem => h (List.mem_cons_of_mem _ hmem)]

theorem replace_cr_eq_self {text : List Char} (h : '\r' ∉ text) : replaceCr text = text := by
  have hkeep : ∀ character ∈ text, (if character = '\r' then '\n' else character) = character := by
    intro character hmem
    refine if_neg ?_
    rintro rfl
    exact h hmem
  rw [replaceCr, List.map_congr_left hkeep, List.map_id']

/-- Normalized text has no carriage return. -/
theorem replace_cr_not_mem (text : List Char) : '\r' ∉ replaceCr text := by
  intro hmem
  obtain ⟨character, _, hcharacter⟩ := List.mem_map.1 hmem
  split_ifs at hcharacter with h
  · cases hcharacter
  · exact h hcharacter

/-- Distinct numbers are displayed in distinct ways. -/
theorem to_string_injective : Function.Injective (toString : Nat → String) := by
  intro m n h
  have hdigits : Nat.toDigits 10 m = Nat.toDigits 10 n := by
    have hm : (toString m).toList = Nat.toDigits 10 m := Nat.toList_repr
    have hn : (toString n).toList = Nat.toDigits 10 n := Nat.toList_repr
    rw [← hm, ← hn, h]
  have hvalues := congrArg (Nat.ofDigitChars 10 · 0) hdigits
  simpa only [Nat.ofDigitChars_ten_toDigits] using hvalues

/-! ## ASCII text -/

/-- The bytes of a string are those of its characters. -/
theorem into_bytes_eq (text : String) :
    intoBytes text = text.toList.flatMap String.utf8EncodeChar := by
  rw [intoBytes, ← String.utf8Encode_toList, List.utf8Encode]
  exact List.toList_data_toByteArray

/-- A character whose bytes are all below 128 is one byte. -/
theorem utf8_encode_ascii {character : Char}
    (h : ∀ byte ∈ String.utf8EncodeChar character, byte.toNat < 128) :
    character.toNat < 128 ∧
      String.utf8EncodeChar character = [UInt8.ofNat character.toNat] := by
  by_cases hascii : character.val.toNat ≤ 0x7f
  · exact ⟨Nat.lt_succ_of_le hascii, if_pos hascii⟩
  · -- The first byte of a longer encoding has its highest bit set.
    exfalso
    unfold String.utf8EncodeChar at h
    simp only [hascii, if_false] at h
    split_ifs at h
    all_goals
      have hfirst := h _ List.mem_cons_self
      rw [UInt8.toNat_ofNat'] at hfirst
      omega

/-- A string has at least one byte for each character. -/
theorem length_le_len (text : String) : text.toList.length ≤ len text := by
  rw [len, into_bytes_eq, List.length_flatMap]
  generalize text.toList = characters
  induction characters with
  | nil => exact Nat.le_refl 0
  | cons character characters ih =>
      have hpos : 0 < (String.utf8EncodeChar character).length := by
        rw [String.length_utf8EncodeChar]
        exact Char.utf8Size_pos character
      rw [List.length_cons, List.map_cons, List.sum_cons]
      omega

/-- A string whose bytes are all below 128 has one byte for each character. -/
theorem into_bytes_ascii {text : String} (h : ∀ byte ∈ intoBytes text, byte.toNat < 128) :
    (∀ character ∈ text.toList, character.toNat < 128) ∧
      intoBytes text = text.toList.map fun character => UInt8.ofNat character.toNat := by
  rw [into_bytes_eq] at h ⊢
  have hcharacter : ∀ character ∈ text.toList, character.toNat < 128 ∧
      String.utf8EncodeChar character = [UInt8.ofNat character.toNat] := fun character hmem =>
    utf8_encode_ascii fun byte hbyte => h byte (List.mem_flatMap.2 ⟨character, hmem, hbyte⟩)
  refine ⟨fun character hmem => (hcharacter character hmem).1, ?_⟩
  rw [List.flatMap_congr fun character hmem => (hcharacter character hmem).2]
  exact List.flatMap_pure_eq_map _ _

/-- An ASCII character is one byte. -/
theorem utf8_encode_of_ascii {character : Char} (h : character.toNat < 128) :
    String.utf8EncodeChar character = [UInt8.ofNat character.toNat] :=
  if_pos (Nat.le_of_lt_succ h)

/-- The length of ASCII text in bytes is the number of its characters. -/
theorem len_of_ascii {text : String} (h : ∀ character ∈ text.toList, character.toNat < 128) :
    len text = text.toList.length := by
  rw [len, into_bytes_eq,
    List.flatMap_congr fun character hmem => utf8_encode_of_ascii (h character hmem)]
  exact (congrArg _ (List.flatMap_pure_eq_map _ _)).trans (List.length_map _)

theorem digit_ascii {character : Char} (h : character.isDigit = true) :
    character.toNat < 128 := by
  simp only [Char.isDigit, Bool.and_eq_true, decide_eq_true_eq, UInt32.le_iff_toNat_le] at h
  have hhigh : character.toNat ≤ 57 := h.2
  omega

/-- A byte that is a digit is the character that is. -/
theorem ascii_digit_iff {character : Char} (h : character.toNat < 128) :
    isAsciiDigit (UInt8.ofNat character.toNat) = true ↔ character.isDigit = true := by
  simp only [isAsciiDigit, Char.isDigit, Bool.and_eq_true, decide_eq_true_eq, ge_iff_le,
    UInt8.le_iff_toNat_le, UInt32.le_iff_toNat_le, UInt8.toNat_ofNat']
  show 48 ≤ character.toNat % 256 ∧ character.toNat % 256 ≤ 57 ↔
    48 ≤ character.toNat ∧ character.toNat ≤ 57
  omega

/-- The bytes of a string are digits if its characters are. -/
theorem all_ascii_digit_iff (text : String) :
    (intoBytes text).all isAsciiDigit = true ↔
      ∀ character ∈ text.toList, character.isDigit = true := by
  rw [List.all_eq_true]
  constructor
  · intro h
    have hascii : ∀ byte ∈ intoBytes text, byte.toNat < 128 := by
      intro byte hmem
      have hdigit := h byte hmem
      simp only [isAsciiDigit, decide_eq_true_eq, UInt8.le_iff_toNat_le, UInt8.reduceToNat]
        at hdigit
      omega
    obtain ⟨hsmall, hbytes⟩ := into_bytes_ascii hascii
    intro character hmem
    refine (ascii_digit_iff (hsmall character hmem)).1 (h _ ?_)
    rw [hbytes]
    exact List.mem_map_of_mem hmem
  · intro h byte hbyte
    rw [into_bytes_eq] at hbyte
    obtain ⟨character, hmem, hencode⟩ := List.mem_flatMap.1 hbyte
    have hdigit := h character hmem
    have hsmall := digit_ascii hdigit
    rw [utf8_encode_of_ascii hsmall, List.mem_singleton] at hencode
    rw [hencode]
    exact (ascii_digit_iff hsmall).2 hdigit

/-- A string of digits has one byte for each. -/
theorem len_digits {text : String} (h : ∀ character ∈ text.toList, character.isDigit = true) :
    len text = text.toList.length :=
  len_of_ascii fun character hmem => digit_ascii (h character hmem)

/-! ## Pushing -/

/-- What a loop that pushes one text for each item appends. -/
theorem foldl_push_toList {α : Type} (text : α → String) (output : String) (items : List α) :
    (items.foldl (fun output item => output ++ text item) output).toList =
      output.toList ++ items.flatMap fun item => (text item).toList := by
  induction items generalizing output with
  | nil => rw [List.foldl_nil, List.flatMap_nil, List.append_nil]
  | cons item items ih =>
      rw [List.foldl_cons, ih, String.toList_append, List.flatMap_cons, List.append_assoc]

end TwEinvoice.Rust
