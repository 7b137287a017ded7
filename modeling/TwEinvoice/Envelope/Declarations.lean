import TwEinvoice.Envelope.Header

/-!
# XML declarations in the payloads

A document has one XML declaration at most, at its start, and a pack has none. `to_turnkey_xml`
looks for one at the start of each payload, behind white space. A declaration behind anything
else, such as a byte-order mark, goes into the pack.
-/

namespace TwEinvoice.Envelope

open Rust

/-- The white space of XML. -/
def isXmlSpace (character : Char) : Bool :=
  character = ' ' ∨ character = '\t' ∨ character = '\r' ∨ character = '\n'

/-- An XML declaration behind these characters. -/
def DeclaresAfter (text : String) (before : List Char) : Prop :=
  ∃ space after, isXmlSpace space = true ∧
    text.toList = before ++ ("<?xml".toList ++ space :: after)

/-- The text of a payload, if it is UTF-8. -/
def MigPayload.text (payload : MigPayload) : Option String := fromUtf8 payload.bytes

/-- An XML declaration anywhere in the payload. -/
def MigPayload.ContainsDeclaration (payload : MigPayload) : Prop :=
  ∃ text ∈ payload.text, ∃ before, DeclaresAfter text before

/-- An XML declaration behind a character that is not white space. -/
def MigPayload.DeclaresLate (payload : MigPayload) : Prop :=
  ∃ text ∈ payload.text, ∃ before, DeclaresAfter text before ∧
    ∃ character ∈ before, isWhitespace character = false

/-- The first characters that are not white space are `<?xml`. -/
def MigPayload.StartsWithXml (payload : MigPayload) : Prop :=
  ∃ text ∈ payload.text, startsWith (trimStart text) "<?xml" = true

/-! ## What the serializer accepts -/

/-- A payload is refused for its encoding or for a declaration at its start. -/
theorem push_payload_ok_iff (output : String) (payload : MigPayload) (index : Nat) :
    (∃ result, pushPayload output (payload, index) = .ok result) ↔
      payload.text.isSome ∧ ¬ payload.StartsWithXml := by
  constructor
  · intro h
    obtain ⟨result, hresult⟩ := h
    rw [pushPayload] at hresult
    split at hresult
    · cases hresult
    · next text htext =>
      split at hresult
      · cases hresult
      · next hnot =>
        refine ⟨Option.isSome_iff_exists.2 ⟨text, htext⟩, ?_⟩
        intro h
        obtain ⟨other, hother, hstarts⟩ := h
        cases Option.some.inj (htext.symm.trans hother)
        exact hnot hstarts
  · intro h
    obtain ⟨hsome, hnot⟩ := h
    obtain ⟨text, htext⟩ := Option.isSome_iff_exists.1 hsome
    have hdeclaration : startsWith (trimStart text) "<?xml" = false := by
      rw [Bool.eq_false_iff]
      exact fun hstarts => hnot ⟨text, htext, hstarts⟩
    exact ⟨_, push_payload_text htext hdeclaration output index⟩

/-- The loop succeeds if every payload is accepted. -/
theorem push_payloads_ok_iff (payloads : List MigPayload) (start : Nat) (output : String) :
    (∃ result, (payloads.zipIdx start).foldlM pushPayload output = .ok result) ↔
      ∀ payload ∈ payloads, payload.text.isSome ∧ ¬ payload.StartsWithXml := by
  induction payloads generalizing start output with
  | nil => exact ⟨fun _ _ hmem => absurd hmem List.not_mem_nil, fun _ => ⟨output, rfl⟩⟩
  | cons payload payloads ih =>
      rw [List.zipIdx_cons, List.foldlM_cons, List.forall_mem_cons,
        ← push_payload_ok_iff output payload start]
      constructor
      · intro h
        obtain ⟨result, hresult⟩ := h
        obtain ⟨middle, hmiddle, hrest⟩ := ok_of_bind_ok hresult
        exact ⟨⟨middle, hmiddle⟩, (ih (start + 1) middle).1 ⟨result, hrest⟩⟩
      · intro h
        obtain ⟨⟨middle, hmiddle⟩, hpayloads⟩ := h
        obtain ⟨result, hresult⟩ := (ih (start + 1) middle).2 hpayloads
        exact ⟨result, by rw [hmiddle]; exact hresult⟩

/-- An envelope is refused for one of its payloads. -/
theorem to_turnkey_xml_ok_iff (envelope : InvoiceEnvelope) :
    (∃ bytes, envelope.toTurnkeyXml = .ok bytes) ↔
      ∀ payload ∈ envelope.payloads, payload.text.isSome ∧ ¬ payload.StartsWithXml := by
  rw [← push_payloads_ok_iff envelope.payloads 0 (envelope.pushHeader "")]
  constructor
  · intro h
    obtain ⟨bytes, hbytes⟩ := h
    obtain ⟨output, houtput, _⟩ := ok_of_bind_ok hbytes
    exact ⟨output, houtput⟩
  · intro h
    obtain ⟨output, houtput⟩ := h
    exact ⟨_, by rw [InvoiceEnvelope.toTurnkeyXml, houtput]; rfl⟩

/-! ## Where a declaration is found -/

/-- A declaration behind white space is at the start of the trimmed text. -/
theorem starts_with_of_declares {text : String} {before : List Char}
    (h : DeclaresAfter text before)
    (hspace : ∀ character ∈ before, isWhitespace character = true) :
    startsWith (trimStart text) "<?xml" = true := by
  obtain ⟨space, after, _, htext⟩ := h
  have htrim : (trimStart text).toList = "<?xml".toList ++ space :: after := by
    rw [trimStart, htext, List.dropWhile_append_of_pos hspace]
    exact String.toList_ofList
  rw [startsWith, htrim, List.isPrefixOf_iff_prefix]
  exact List.prefix_append _ _

/-- A payload with a declaration starts with it, or has it behind something else. -/
theorem MigPayload.ContainsDeclaration.starts_or_late {payload : MigPayload}
    (h : payload.ContainsDeclaration) : payload.StartsWithXml ∨ payload.DeclaresLate := by
  obtain ⟨text, htext, before, hdeclares⟩ := h
  by_cases hspace : ∀ character ∈ before, isWhitespace character = true
  · exact .inl ⟨text, htext, starts_with_of_declares hdeclares hspace⟩
  · push Not at hspace
    obtain ⟨character, hmem, hcharacter⟩ := hspace
    exact .inr ⟨text, htext, before, hdeclares, character, hmem, by simpa using hcharacter⟩

theorem MigPayload.DeclaresLate.contains {payload : MigPayload} (h : payload.DeclaresLate) :
    payload.ContainsDeclaration := by
  obtain ⟨text, htext, before, hdeclares, _⟩ := h
  exact ⟨text, htext, before, hdeclares⟩

/-- A pack has no XML declaration in it exactly if no payload has one behind something other than
white space, or the envelope is refused for another payload. -/
theorem pack_without_declaration_iff (envelope : InvoiceEnvelope) :
    (∀ bytes, envelope.toTurnkeyXml = .ok bytes →
        ∀ payload ∈ envelope.payloads, ¬ payload.ContainsDeclaration) ↔
      (∀ payload ∈ envelope.payloads, ¬ payload.DeclaresLate) ∨
        ∃ payload ∈ envelope.payloads, payload.text = none ∨ payload.StartsWithXml := by
  constructor
  · intro hpack
    by_contra hnot
    push Not at hnot
    obtain ⟨⟨payload, hmem, hlate⟩, haccepted⟩ := hnot
    obtain ⟨bytes, hbytes⟩ := (to_turnkey_xml_ok_iff envelope).2 fun other hother =>
      ⟨Option.isSome_iff_ne_none.2 (haccepted other hother).1, (haccepted other hother).2⟩
    exact hpack bytes hbytes payload hmem hlate.contains
  · intro hcondition bytes hbytes payload hmem hcontains
    have haccepted := (to_turnkey_xml_ok_iff envelope).1 ⟨bytes, hbytes⟩
    obtain hlate | ⟨other, hother, hrefused⟩ := hcondition
    · obtain hstarts | hdeclares := hcontains.starts_or_late
      · exact (haccepted payload hmem).2 hstarts
      · exact hlate payload hmem hdeclares
    · obtain ⟨htext, hstarts⟩ := haccepted other hother
      obtain hnone | hxml := hrefused
      · rw [hnone] at htext
        cases htext
      · exact hstarts hxml

/-- A declaration behind a byte-order mark. -/
def markedPayload : MigPayload :=
  ⟨intoBytes "\uFEFF<?xml version=\"1.0\"?><Invoice/>", by decide⟩

/-- A declaration behind a byte order mark gets into the pack. -/
theorem pack_with_declaration :
    (∃ bytes, (singleEnvelope markedPayload).toTurnkeyXml = .ok bytes) ∧
      markedPayload ∈ (singleEnvelope markedPayload).payloads ∧
      markedPayload.ContainsDeclaration := by
  have htext : markedPayload.text = some "\uFEFF<?xml version=\"1.0\"?><Invoice/>" :=
    from_utf8_into_bytes _
  have hbytes : (singleEnvelope markedPayload).toTurnkeyXml = .ok _ :=
    to_turnkey_xml_single rfl htext (by decide)
  refine ⟨⟨_, hbytes⟩, List.mem_singleton_self _, _, htext, ['\uFEFF'], ' ', ?_⟩
  exact ⟨"version=\"1.0\"?><Invoice/>".toList, by decide, by decide⟩

end TwEinvoice.Envelope
