import TwEinvoice.Parsing.Wrapping
import TwEinvoice.Rust.Text
import TwEinvoice.Signing.Armor

/-!
# The lines of the transport armor

The armor is the Base64 of the CMS wrapped at 64 characters (`to_turnkey_armored_toList`), in the
sense of `Parsing.Wrapping`. `armor_round_trip` is what its readers rely on: the shape of its
lines, the CMS that they decode to, and its length.
-/

namespace TwEinvoice.Signing

open Rust Parsing

/-! ## Base64 -/

/-- The 6-bit value of a character. -/
def base64Value (symbol : Char) : Option Nat :=
  if 'A' ≤ symbol ∧ symbol ≤ 'Z' then some (symbol.toNat - 'A'.toNat)
  else if 'a' ≤ symbol ∧ symbol ≤ 'z' then some (26 + (symbol.toNat - 'a'.toNat))
  else if '0' ≤ symbol ∧ symbol ≤ '9' then some (52 + (symbol.toNat - '0'.toNat))
  else if symbol = '+' then some 62
  else if symbol = '/' then some 63
  else none

/-- `STANDARD.decode`: groups of four characters, of which the last may be padded. The bits that
the padding leaves over are zero. -/
def base64Decode : List Char → Option (List UInt8)
  | [] => some []
  | a :: b :: c :: d :: rest => do
      let first ← base64Value a
      let second ← base64Value b
      if rest = [] ∧ c = '=' ∧ d = '=' then
        if second % 16 = 0 then some [UInt8.ofNat (first * 4 + second / 16)] else none
      else
        let third ← base64Value c
        if rest = [] ∧ d = '=' then
          if third % 4 = 0 then
            some [UInt8.ofNat (first * 4 + second / 16),
              UInt8.ofNat (second % 16 * 16 + third / 4)]
          else none
        else
          let fourth ← base64Value d
          let bytes ← base64Decode rest
          some (UInt8.ofNat (first * 4 + second / 16) ::
            UInt8.ofNat (second % 16 * 16 + third / 4) ::
              UInt8.ofNat (third % 4 * 64 + fourth) :: bytes)
  | _ => none

/-- The characters of 6-bit values are ASCII, read as these values, and neither padding nor line
ends. -/
theorem base64_symbol_spec {value : Nat} (h : value < 64) :
    base64Value (base64Symbol value) = some value ∧ (base64Symbol value).toNat < 128 ∧
      base64Symbol value ≠ '=' ∧ base64Symbol value ≠ '\n' ∧ base64Symbol value ≠ '\r' := by
  revert value
  decide

/-- Every group of up to three bytes is four characters. -/
theorem base64_length (bytes : List UInt8) :
    (base64 bytes).length = 4 * ((bytes.length + 2) / 3) := by
  fun_induction base64 bytes with
  | case1 => rfl
  | case2 a => simp
  | case3 a b => simp
  | case4 a b c rest ih =>
      simp only [List.length_cons, ih]
      omega

/-- A character of the encoding is padding or has a 6-bit value. -/
theorem mem_base64 {bytes : List UInt8} {character : Char} (h : character ∈ base64 bytes) :
    character = '=' ∨ ∃ value < 64, character = base64Symbol value := by
  fun_induction base64 bytes with
  | case1 => cases h
  | case2 a =>
      have ha := a.toNat_lt
      simp only [List.mem_cons, List.not_mem_nil, or_false] at h
      rcases h with h | h | h | h
      exacts [.inr ⟨_, by omega, h⟩, .inr ⟨_, by omega, h⟩, .inl h, .inl h]
  | case3 a b =>
      have ha := a.toNat_lt
      have hb := b.toNat_lt
      simp only [List.mem_cons, List.not_mem_nil, or_false] at h
      rcases h with h | h | h | h
      exacts [.inr ⟨_, by omega, h⟩, .inr ⟨_, by omega, h⟩, .inr ⟨_, by omega, h⟩, .inl h]
  | case4 a b c rest ih =>
      have ha := a.toNat_lt
      have hb := b.toNat_lt
      have hc := c.toNat_lt
      simp only [List.mem_cons] at h
      rcases h with h | h | h | h | h
      exacts [.inr ⟨_, by omega, h⟩, .inr ⟨_, by omega, h⟩, .inr ⟨_, by omega, h⟩,
        .inr ⟨_, by omega, h⟩, ih h]

/-- The characters of the encoding are ASCII and not line ends. -/
theorem base64_characters {bytes : List UInt8} {character : Char}
    (h : character ∈ base64 bytes) :
    character.toNat < 128 ∧ character ≠ '\n' ∧ character ≠ '\r' := by
  rcases mem_base64 h with rfl | ⟨value, hvalue, rfl⟩
  · decide
  · obtain ⟨_, hascii, _, hline⟩ := base64_symbol_spec hvalue
    exact ⟨hascii, hline⟩

theorem byte_eq {value : Nat} {byte : UInt8} (h : value = byte.toNat) :
    UInt8.ofNat value = byte := by
  rw [h, UInt8.ofNat_toNat]

/-- Decoding inverts the encoding. -/
theorem base64_decode_base64 (bytes : List UInt8) : base64Decode (base64 bytes) = some bytes := by
  fun_induction base64 bytes with
  | case1 => rfl
  | case2 a =>
      have ha := a.toNat_lt
      have hfirst := (base64_symbol_spec (show a.toNat / 4 < 64 by omega)).1
      have hsecond := (base64_symbol_spec (show a.toNat % 4 * 16 < 64 by omega)).1
      have hbyte : UInt8.ofNat (a.toNat / 4 * 4 + a.toNat % 4 * 16 / 16) = a :=
        byte_eq (by omega)
      rw [base64Decode, hfirst, hsecond]
      simp only [Option.bind_eq_bind, Option.bind_some, and_self, if_true]
      rw [if_pos (by omega), hbyte]
  | case3 a b =>
      have ha := a.toNat_lt
      have hb := b.toNat_lt
      have hfirst := (base64_symbol_spec (show a.toNat / 4 < 64 by omega)).1
      have hsecond :=
        (base64_symbol_spec (show a.toNat % 4 * 16 + b.toNat / 16 < 64 by omega)).1
      obtain ⟨hthird, _, hpadding, _⟩ :=
        base64_symbol_spec (show b.toNat % 16 * 4 < 64 by omega)
      have hbyte : UInt8.ofNat (a.toNat / 4 * 4 + (a.toNat % 4 * 16 + b.toNat / 16) / 16) = a :=
        byte_eq (by omega)
      have hnext : UInt8.ofNat ((a.toNat % 4 * 16 + b.toNat / 16) % 16 * 16 +
          b.toNat % 16 * 4 / 4) = b := byte_eq (by omega)
      rw [base64Decode, hfirst, hsecond, hthird]
      simp only [Option.bind_eq_bind, Option.bind_some, hpadding, false_and, and_false, and_self,
        if_true, if_false]
      rw [if_pos (by omega), hbyte, hnext]
  | case4 a b c rest ih =>
      have ha := a.toNat_lt
      have hb := b.toNat_lt
      have hc := c.toNat_lt
      have hfirst := (base64_symbol_spec (show a.toNat / 4 < 64 by omega)).1
      have hsecond :=
        (base64_symbol_spec (show a.toNat % 4 * 16 + b.toNat / 16 < 64 by omega)).1
      obtain ⟨hthird, _, hpadding, _⟩ :=
        base64_symbol_spec (show b.toNat % 16 * 4 + c.toNat / 64 < 64 by omega)
      obtain ⟨hfourth, _, hlast, _⟩ := base64_symbol_spec (show c.toNat % 64 < 64 by omega)
      have hbyte : UInt8.ofNat (a.toNat / 4 * 4 + (a.toNat % 4 * 16 + b.toNat / 16) / 16) = a :=
        byte_eq (by omega)
      have hnext : UInt8.ofNat ((a.toNat % 4 * 16 + b.toNat / 16) % 16 * 16 +
          (b.toNat % 16 * 4 + c.toNat / 64) / 4) = b := byte_eq (by omega)
      have hfinal : UInt8.ofNat ((b.toNat % 16 * 4 + c.toNat / 64) % 4 * 64 + c.toNat % 64) = c :=
        byte_eq (by omega)
      rw [base64Decode, hfirst, hsecond, hthird, hfourth, ih]
      -- A group of three bytes is not taken for a padded one, even if it is the last.
      simp only [Option.bind_eq_bind, Option.bind_some, hpadding, hlast, and_false, if_false, hbyte,
        hnext, hfinal]

/-! ## The armor -/

/-- The mask of the source selects the remainder of the division by the length of a line. -/
theorem line_mask_eq (index : Nat) : index &&& 63 = index % 64 :=
  Nat.and_two_pow_sub_one_eq_mod index 6

/-- The loop of the source is the one of `wrap`. -/
theorem push_characters_toList (entries : List (Char × Nat)) (output : String) :
    (entries.foldl (fun output entry =>
        if (entry.2 + 1) &&& 63 = 0 then (output.push entry.1).push '\n'
        else output.push entry.1) output).toList =
      entries.foldl (wrapStep 64 '\n') output.toList := by
  induction entries generalizing output with
  | nil => rfl
  | cons entry entries ih =>
      rw [List.foldl_cons, ih, List.foldl_cons, wrapStep, line_mask_eq]
      split
      · rw [String.toList_push, String.toList_push, List.append_assoc]
        rfl
      · rw [String.toList_push]

/-- The armor is the wrapped encoding. -/
theorem to_turnkey_armored_toList (cms : CmsSignedData) :
    cms.toTurnkeyArmored.toList = wrap 64 '\n' (base64 cms.encoded) := by
  have hloop := push_characters_toList (base64 cms.encoded).zipIdx ""
  rw [wrap, ← String.toList_empty, ← hloop, ← line_mask_eq]
  show (if _ then String.push _ _ else _).toList = _
  split
  · exact String.toList_push _
  · rfl

/-- The armor of a CMS is lines that end with a line feed, of 64 characters but for the last one,
which is not empty. Without the line feeds it decodes to the CMS, and its length is that of the
Base64 and of the line feeds. -/
theorem armor_round_trip (cms : CmsSignedData) :
    ∃ lines last, cms.toTurnkeyArmored.toList = unlines '\n' (lines ++ [last]) ∧
      (∀ line ∈ lines, line.length = 64) ∧ 1 ≤ last.length ∧ last.length ≤ 64 ∧
      (∀ line ∈ lines ++ [last], '\n' ∉ line ∧ '\r' ∉ line) ∧
      base64Decode (cms.toTurnkeyArmored.toList.filter (· ≠ '\n')) = some cms.encoded ∧
      len cms.toTurnkeyArmored =
        4 * ((cms.encoded.length + 2) / 3) + (4 * ((cms.encoded.length + 2) / 3) + 63) / 64 := by
  have hlength := base64_length cms.encoded
  have hpos := List.length_pos_iff.2 cms.nonempty
  have hinput : base64 cms.encoded ≠ [] := List.ne_nil_of_length_pos (by omega)
  obtain ⟨lines, last, hwrapped, hwrap⟩ :=
    wrap_wrapped (by decide : 0 < 64) '\n' hinput
  have harmor := (to_turnkey_armored_toList cms).trans hwrap
  have hcharacters : ∀ character ∈ (lines ++ [last]).flatten,
      character.toNat < 128 ∧ character ≠ '\n' ∧ character ≠ '\r' := by
    rw [hwrapped.joined]
    exact fun character => base64_characters
  refine ⟨lines, last, harmor, hwrapped.full, List.length_pos_iff.2 hwrapped.nonempty,
    hwrapped.fits, ?_, ?_, ?_⟩
  · intro line hline
    have hmem : ∀ {character}, character ∈ line → character ∈ (lines ++ [last]).flatten :=
      fun hcharacter => List.mem_flatten.2 ⟨line, hline, hcharacter⟩
    exact ⟨fun h => (hcharacters _ (hmem h)).2.1 rfl, fun h => (hcharacters _ (hmem h)).2.2 rfl⟩
  · rw [harmor, filter_unlines fun h => (hcharacters _ h).2.1 rfl, hwrapped.joined,
      base64_decode_base64]
  · have hascii : ∀ character ∈ cms.toTurnkeyArmored.toList, character.toNat < 128 := by
      intro character hmem
      rcases mem_unlines (harmor ▸ hmem) with rfl | hline
      · decide
      · exact (hcharacters character hline).1
    rw [len_of_ascii hascii, harmor, length_unlines, hwrapped.length_lines, hwrapped.joined,
      hlength]

/-- The armor is the lines of the encoding. -/
theorem armor_lines (cms : CmsSignedData) :
    ∃ lines last, Wrapped 64 (base64 cms.encoded) lines last ∧
      cms.toTurnkeyArmored.toList = unlines '\n' (lines ++ [last]) := by
  have hlength := base64_length cms.encoded
  have hpos := List.length_pos_iff.2 cms.nonempty
  have hinput : base64 cms.encoded ≠ [] := List.ne_nil_of_length_pos (by omega)
  obtain ⟨lines, last, hwrapped, hwrap⟩ := wrap_wrapped (by omega : 0 < 64) '\n' hinput
  exact ⟨lines, last, hwrapped, (to_turnkey_armored_toList cms).trans hwrap⟩

/-- Without its line feeds the armor is the encoding. -/
theorem armor_filter (cms : CmsSignedData) :
    cms.toTurnkeyArmored.toList.filter (· ≠ '\n') = base64 cms.encoded := by
  obtain ⟨lines, last, hwrapped, harmor⟩ := armor_lines cms
  have hnone : '\n' ∉ (lines ++ [last]).flatten := by
    rw [hwrapped.joined]
    exact fun h => (base64_characters h).2.1 rfl
  rw [harmor, filter_unlines hnone, hwrapped.joined]

/-- The armor is at most three times as long as what is armored, and at least as long. -/
theorem armor_length (cms : CmsSignedData) :
    cms.encoded.length ≤ (intoBytes cms.toTurnkeyArmored).length ∧
      (intoBytes cms.toTurnkeyArmored).length ≤ 3 * cms.encoded.length + 4 := by
  obtain ⟨lines, last, hwrapped, harmor⟩ := armor_lines cms
  have hascii : ∀ character ∈ cms.toTurnkeyArmored.toList, character.toNat < 128 := by
    intro character hmem
    rw [harmor] at hmem
    rcases mem_unlines hmem with rfl | hline
    · decide
    · rw [hwrapped.joined] at hline
      exact (base64_characters hline).1
  have hlength := len_of_ascii hascii
  rw [harmor, length_unlines, hwrapped.length_lines, hwrapped.joined, base64_length] at hlength
  have hpos := List.length_pos_iff.2 cms.nonempty
  unfold len at hlength
  omega

end TwEinvoice.Signing
