import TwEinvoice.Transport.FilenameGrammar
import TwEinvoice.Transport.Poller

/-!
# Classification of common names

`classify_remote_name` tests seven suffixes before it tries a name as a common name. The last
segment of a common name has room for five of them, and these take precedence
(`classify_common_name`).
-/

namespace TwEinvoice.Transport

open Parsing Rust

/-- The suffixes that fit into the last segment of a common name, and what they stand for. -/
def controlSuffixes : List (String × InboundObjectKind) :=
  [("E0501", .e05 .e0501), ("E0502", .e05 .e0502), ("E0503", .e05 .e0503),
    ("E0504", .e05 .e0504), ("Ack", .exchangeAck)]

theorem endsWith_iff {text pattern : String} :
    endsWith text pattern = true ↔ pattern.toList <:+ text.toList :=
  List.isSuffixOf_iff_suffix

/-- A common name ends with a segment of 12 bytes. -/
theorem MessageCommonName.WellFormed.last_segment {name : MessageCommonName}
    (h : name.WellFormed) :
    ∃ before last, name.render.toList = before ++ '-' :: last ∧ last.length ≤ 12 := by
  obtain ⟨first, second, third, fourth, last, hsegments, hlengths, _⟩ := h.hyphenated
  have hsplits : Splits '-' name.render.toList
      ([name.migVersion, name.messageType, name.date, name.time, first, second, third,
        fourth].map String.toList ++ [last.toList]) := hsegments
  obtain ⟨before, hbefore⟩ := hsplits.last (List.cons_ne_nil _ _)
  have hlen : len last = 12 := congrArg (fun lengths => lengths.getLastD 0) hlengths
  exact ⟨before, last.toList, hbefore, hlen ▸ length_le_len last⟩

/-- A longer suffix without a hyphen is none of a common name. -/
theorem not_endsWith_of_long {value pattern : String} {name : MessageCommonName}
    (h : MessageCommonName.parse value = .ok name) (hlong : 12 < pattern.toList.length)
    (hhyphen : '-' ∉ pattern.toList) : endsWith value pattern = false := by
  obtain ⟨hname, rfl⟩ := MessageCommonName.parse_eq_ok_iff.1 h
  obtain ⟨before, last, hrender, hlast⟩ := hname.last_segment
  rw [Bool.eq_false_iff, ne_eq, endsWith_iff, hrender]
  intro hsuffix
  have hlength := (suffix_of_not_mem hsuffix hhyphen).length_le
  omega

/-- A common name is classified by the first suffix that it has, or else as an invoice. -/
theorem classify_eq {value : String} {name : MessageCommonName}
    (h : MessageCommonName.parse value = .ok name) :
    classifyRemoteName value =
      ((controlSuffixes.find? fun entry => endsWith value entry.1).map Prod.snd).getD
        (.invoice name) := by
  -- These two are tested first, and are too long for the last segment.
  have hprocess : endsWith value "ProcessResult" = false :=
    not_endsWith_of_long h (by decide) (by decide)
  have hsummary : endsWith value "SummaryResult" = false :=
    not_endsWith_of_long h (by decide) (by decide)
  rw [classifyRemoteName, hprocess, hsummary, h]
  simp only [controlSuffixes, List.find?_cons, List.find?_nil]
  split_ifs <;> simp_all

/-- The suffixes end with different characters, so a name has at most one of them. -/
theorem suffix_unique {value : String} {entry other : String × InboundObjectKind}
    (hentry : entry ∈ controlSuffixes) (hother : other ∈ controlSuffixes)
    (h : endsWith value entry.1 = true) (h' : endsWith value other.1 = true) : entry = other := by
  -- The last characters are 1, 2, 3, 4 and k.
  have hlast : ∀ first ∈ controlSuffixes, ∀ second ∈ controlSuffixes,
      first.1.toList.getLast? = second.1.toList.getLast? → first = second := by decide
  have hends : ∀ first ∈ controlSuffixes, endsWith value first.1 = true →
      value.toList.getLast? = first.1.toList.getLast? := by
    intro first hfirst hsuffix
    obtain ⟨before, hbefore⟩ := endsWith_iff.1 hsuffix
    have hne : ∀ first ∈ controlSuffixes, first.1.toList ≠ [] := by decide
    rw [← hbefore, List.getLast?_append_of_ne_nil _ (hne first hfirst)]
  exact hlast entry hentry other hother ((hends entry hentry h).symm.trans (hends other hother h'))

/-- A name that is accepted as a common name is classified as an invoice exactly if it does not
end with one of the five suffixes. With a suffix it is of the class of the suffix. It is never
taken for a result. -/
theorem classify_common_name {value : String} {name : MessageCommonName}
    (h : MessageCommonName.parse value = .ok name) :
    (classifyRemoteName value = .invoice name ↔
      ∀ entry ∈ controlSuffixes, endsWith value entry.1 = false) ∧
    (∀ entry ∈ controlSuffixes, classifyRemoteName value = entry.2 ↔
      endsWith value entry.1 = true) ∧
    classifyRemoteName value ≠ .processResult ∧ classifyRemoteName value ≠ .summaryResult := by
  rw [classify_eq h]
  have hkinds : ∀ entry ∈ controlSuffixes, entry.2 ≠ .invoice name ∧
      entry.2 ≠ .processResult ∧ entry.2 ≠ .summaryResult := by
    simp [controlSuffixes]
  have hsame : ∀ first ∈ controlSuffixes, ∀ second ∈ controlSuffixes,
      first.2 = second.2 → first = second := by decide
  cases hfind : controlSuffixes.find? fun entry => endsWith value entry.1 with
  | none =>
      have hnone : ∀ entry ∈ controlSuffixes, endsWith value entry.1 = false := by
        intro entry hentry
        simpa using List.find?_eq_none.1 hfind entry hentry
      refine ⟨iff_of_true rfl hnone, fun entry hentry => iff_of_false ?_ ?_, nofun, nofun⟩
      · exact (hkinds entry hentry).1.symm
      · simp [hnone entry hentry]
  | some found =>
      have hmem := List.mem_of_find?_eq_some hfind
      have hsuffix : endsWith value found.1 = true := by
        have hfound := List.find?_some hfind
        exact hfound
      obtain ⟨hinvoice, hprocess, hsummary⟩ := hkinds found hmem
      refine ⟨iff_of_false hinvoice fun hnone => ?_, fun entry hentry => ⟨fun hkind => ?_,
        fun hends => ?_⟩, hprocess, hsummary⟩
      · rw [hnone found hmem] at hsuffix
        cases hsuffix
      · rwa [← hsame found hmem entry hentry hkind]
      · rw [suffix_unique hentry hmem hends hsuffix]
        rfl

/-- A common name whose UUID ends with these characters. -/
def commonNameEnding (ending : String) : String :=
  "4.1-F0401-20260824-141623456-550e8400-e29b-41d4-a716-4466554" ++ ending

/-- What it is parsed to. -/
def commonNameEnded (ending : String) : MessageCommonName :=
  ⟨"4.1", "F0401", "20260824", "141623456", "550e8400-e29b-41d4-a716-4466554" ++ ending⟩

theorem sample_classified :
    (classifyRemoteName (commonNameEnding "40000") = .invoice (commonNameEnded "40000") ↔
      ∀ entry ∈ controlSuffixes, endsWith (commonNameEnding "40000") entry.1 = false) ∧
    (∀ entry ∈ controlSuffixes, classifyRemoteName (commonNameEnding "40000") = entry.2 ↔
      endsWith (commonNameEnding "40000") entry.1 = true) ∧
    classifyRemoteName (commonNameEnding "40000") ≠ .processResult ∧
    classifyRemoteName (commonNameEnding "40000") ≠ .summaryResult :=
  classify_common_name (by decide +kernel)

/-- A valid common name is taken for an operational message. -/
theorem common_name_misclassified :
    MessageCommonName.parse (commonNameEnding "E0501") = .ok (commonNameEnded "E0501") ∧
      classifyRemoteName (commonNameEnding "E0501") = .e05 .e0501 :=
  ⟨by decide +kernel, by decide +kernel⟩

end TwEinvoice.Transport
