import TwEinvoice.Transport.Filename

/-!
# The grammar of filenames

Which names the parsers of `Filename` accept, and how they relate to `render`. A common name is
parsed exactly from what a well-formed one renders (`MessageCommonName.parse_eq_ok_iff`), and a
pack filename from what one renders up to the numeral of its count
(`TurnkeyPackFilename.parse_eq_ok_iff`).
-/

namespace TwEinvoice.Transport

open Parsing Rust

/-! ## Segments -/

/-- The segments of a name between its hyphens. -/
def Hyphenated (value : String) (segments : List String) : Prop :=
  Splits '-' value.toList (segments.map String.toList)

/-- The segments are those between the hyphens. -/
theorem hyphenated_iff {value : String} {segments : List String} :
    Hyphenated value segments ↔ (value.toList.splitOn '-').map String.ofList = segments := by
  rw [Hyphenated, splits_iff]
  constructor
  · intro h
    simp [h]
  · rintro rfl
    simp

/-- Joining segments without hyphens. -/
theorem hyphenated_iff_joined {value : String} {segments : List String} :
    Hyphenated value segments ↔ segments ≠ [] ∧ (∀ segment ∈ segments, '-' ∉ segment.toList) ∧
      "-".intercalate segments = value := by
  rw [← String.toList_inj, String.toList_intercalate]
  constructor
  · intro h
    obtain ⟨hnonempty, hapart, hjoined⟩ := h
    exact ⟨by simpa using hnonempty, by simpa using hapart, hjoined⟩
  · intro h
    obtain ⟨hnonempty, hapart, hjoined⟩ := h
    exact ⟨by simpa using hnonempty, by simpa using hapart, hjoined⟩

namespace MessageCommonName

/-- The loop passes segments of the expected lengths. -/
theorem check_segments_ok {index : Nat} {entries : List (String × Nat)} :
    checkSegments index entries = .ok () ↔ ∀ entry ∈ entries, len entry.1 = entry.2 := by
  induction entries generalizing index with
  | nil => simp [checkSegments]
  | cons entry entries ih =>
      obtain ⟨part, expected⟩ := entry
      rw [checkSegments, List.forall_mem_cons]
      split_ifs with hlength
      · exact iff_of_false nofun fun h => hlength h.1
      · rw [ih, and_iff_right (not_not.1 hlength)]

/-- It reports the first segment of another length. -/
theorem check_segments_error {index : Nat} {entries : List (String × Nat)} {error : FilenameError}
    (h : checkSegments index entries = .error error) :
    ∃ before part expected after, entries = before ++ (part, expected) :: after ∧
      (∀ entry ∈ before, len entry.1 = entry.2) ∧ len part ≠ expected ∧
      error = .invalidCommonSegmentLength (index + before.length) expected (len part) := by
  induction entries generalizing index with
  | nil => cases h
  | cons entry entries ih =>
      obtain ⟨part, expected⟩ := entry
      rw [checkSegments] at h
      split_ifs at h with hlength
      · cases h
        exact ⟨[], part, expected, entries, rfl, by simp, hlength, rfl⟩
      · obtain ⟨before, other, required, after, rfl, hbefore, hother, rfl⟩ := ih h
        refine ⟨(part, expected) :: before, other, required, after, rfl, ?_, hother, ?_⟩
        · exact List.forall_mem_cons.2 ⟨not_not.1 hlength, hbefore⟩
        · rw [List.length_cons, Nat.add_assoc, Nat.add_comm 1]

/-- Entries agree with the lengths exactly if the list of lengths is the expected one. -/
theorem map_eq_iff_zip {α β : Type} {f : α → β} {values : List α} {expected : List β}
    (hcount : values.length = expected.length) :
    values.map f = expected ↔ ∀ entry ∈ values.zip expected, f entry.1 = entry.2 := by
  induction values generalizing expected with
  | nil =>
      rw [List.length_nil, eq_comm, List.length_eq_zero_iff] at hcount
      simp [hcount]
  | cons value values ih =>
      cases expected with
      | nil => cases hcount
      | cons first expected =>
          rw [List.map_cons, List.cons.injEq, List.zip_cons_cons, List.forall_mem_cons,
            ih (Nat.succ.inj hcount)]

/-- The check of the segments is about their lengths. -/
theorem check_lengths_ok {segments : List String}
    (hcount : segments.length = segmentLengths.length) :
    checkSegments 0 (segments.zip segmentLengths) = .ok () ↔ segments.map len = segmentLengths :=
  check_segments_ok.trans (map_eq_iff_zip hcount).symm

/-- A common name that can be read back from what it renders. -/
structure WellFormed (name : MessageCommonName) : Prop where
  lengths : [name.migVersion, name.messageType, name.date, name.time].map len = [3, 5, 8, 9]
  apart : ∀ part ∈ [name.migVersion, name.messageType, name.date, name.time],
    '-' ∉ part.toList
  uuid : ∃ segments, Hyphenated name.uuid segments ∧ segments.map len = [8, 4, 4, 4, 12]

/-- A name is its parts with hyphens between them. -/
theorem render_toList (name : MessageCommonName) :
    name.render.toList = name.migVersion.toList ++ '-' :: (name.messageType.toList ++
      '-' :: (name.date.toList ++ '-' :: (name.time.toList ++ '-' :: name.uuid.toList))) := by
  simp [render]

/-- The segments of a rendered name are its first four parts and those of the UUID. -/
theorem WellFormed.hyphenated {name : MessageCommonName} (h : name.WellFormed) :
    ∃ first second third fourth last,
      Hyphenated name.render [name.migVersion, name.messageType, name.date, name.time,
        first, second, third, fourth, last] ∧
      [name.migVersion, name.messageType, name.date, name.time,
        first, second, third, fourth, last].map len = segmentLengths ∧
      "-".intercalate [first, second, third, fourth, last] = name.uuid := by
  obtain ⟨hlengths, hapart, segments, huuid, hsegments⟩ := h
  -- A list with five lengths has five segments.
  obtain ⟨first, second, third, fourth, last, rfl⟩ :
      ∃ first second third fourth last, segments = [first, second, third, fourth, last] := by
    match segments, congrArg List.length hsegments with
    | [first, second, third, fourth, last], _ => exact ⟨first, second, third, fourth, last, rfl⟩
  obtain ⟨_, hfive, hjoined⟩ := hyphenated_iff_joined.1 huuid
  refine ⟨first, second, third, fourth, last, ?_, ?_, hjoined⟩
  · refine hyphenated_iff_joined.2 ⟨by simp, ?_, ?_⟩
    · simp only [List.forall_mem_cons] at hapart hfive ⊢
      exact ⟨hapart.1, hapart.2.1, hapart.2.2.1, hapart.2.2.2.1, hfive⟩
    · rw [← String.toList_inj, render_toList, ← hjoined, String.toList_intercalate,
        String.toList_intercalate]
      simp
  · have hboth := congrArg₂ (· ++ ·) hlengths hsegments
    rwa [← List.map_append] at hboth

/-- A common name is parsed exactly from what a well-formed one renders. -/
theorem parse_eq_ok_iff {value : String} {name : MessageCommonName} :
    parse value = .ok name ↔ name.WellFormed ∧ name.render = value := by
  constructor
  · intro h
    have hsegments : Hyphenated value ((value.toList.splitOn '-').map String.ofList) :=
      hyphenated_iff.2 rfl
    simp only [parse] at h
    split at h
    next migVersion messageType date time first second third fourth last hparts =>
      rw [hparts] at hsegments h
      obtain ⟨_, hcheck, h⟩ := ok_of_bind_ok h
      cases h
      have hlengths := (check_lengths_ok rfl).1 hcheck
      obtain ⟨_, hapart, hjoined⟩ := hyphenated_iff_joined.1 hsegments
      refine ⟨⟨?_, ?_, [first, second, third, fourth, last], ?_, ?_⟩, ?_⟩
      -- The first four lengths are those of the parts, the other five those of the UUID.
      · exact congrArg (List.take 4) hlengths
      · simp only [List.forall_mem_cons] at hapart ⊢
        exact ⟨hapart.1, hapart.2.1, hapart.2.2.1, hapart.2.2.2.1, by simp⟩
      · refine hyphenated_iff_joined.2 ⟨by simp, ?_, rfl⟩
        simp only [List.forall_mem_cons] at hapart ⊢
        exact hapart.2.2.2.2
      · exact congrArg (List.drop 4) hlengths
      · rw [← hjoined, ← String.toList_inj, render_toList, String.toList_intercalate,
          String.toList_intercalate]
        simp
    next => cases h
  · rintro ⟨hname, rfl⟩
    obtain ⟨first, second, third, fourth, last, hsegments, hlengths, huuid⟩ := hname.hyphenated
    unfold parse
    simp only [hyphenated_iff.1 hsegments]
    rw [(check_lengths_ok rfl).2 hlengths, huuid]
    rfl

/-- What is reported about segments that are not those of a common name: their number, or else
the first one whose length is wrong. -/
inductive Misfit (segments : List String) : FilenameError → Prop where
  | parts (hcount : segments.length ≠ segmentLengths.length) :
      Misfit segments (.invalidCommonNameParts segments.length)
  | segment {before part after expected}
      (hcount : segments.length = segmentLengths.length)
      (hsegments : segments = before ++ part :: after)
      (hbefore : before.map len = segmentLengths.take before.length)
      (hexpected : segmentLengths[before.length]? = some expected)
      (hlength : len part ≠ expected) :
      Misfit segments (.invalidCommonSegmentLength before.length expected (len part))

/-- The error is about the first segment that does not fit. -/
theorem misfit_of_check {segments : List String} {error : FilenameError}
    (hcount : segments.length = segmentLengths.length)
    (h : checkSegments 0 (segments.zip segmentLengths) = .error error) : Misfit segments error := by
  obtain ⟨before, part, expected, after, hentries, hbefore, hlength, rfl⟩ :=
    check_segments_error h
  have hfirst := congrArg (List.map Prod.fst) hentries
  rw [List.map_fst_zip (Nat.le_of_eq hcount), List.map_append, List.map_cons] at hfirst
  have hsecond := congrArg (List.map Prod.snd) hentries
  rw [List.map_snd_zip (Nat.le_of_eq hcount.symm), List.map_append, List.map_cons] at hsecond
  have hsame : (before.map Prod.fst).length = (before.map Prod.snd).length := by
    rw [List.length_map, List.length_map]
  have hmisfit : Misfit segments
      (.invalidCommonSegmentLength (before.map Prod.fst).length expected (len part)) := by
    refine .segment hcount hfirst ?_ ?_ hlength
    · rw [hsame, hsecond, List.take_left, List.map_map]
      exact List.map_congr_left hbefore
    · rw [hsame, hsecond, List.getElem?_append_right (Nat.le_refl _), Nat.sub_self,
        List.getElem?_cons_zero]
  -- The loop counts from its first index, which is 0 here.
  rwa [List.length_map, ← Nat.zero_add before.length] at hmisfit

/-- A failed parse reports a misfit. -/
theorem misfit_of_parse {value : String} {segments : List String} {error : FilenameError}
    (hsegments : Hyphenated value segments) (h : parse value = .error error) :
    Misfit segments error := by
  simp only [parse, hyphenated_iff.1 hsegments] at h
  split at h
  next migVersion messageType date time first second third fourth last =>
    refine misfit_of_check rfl ?_
    cases hcheck : checkSegments 0 ([migVersion, messageType, date, time, first, second, third,
        fourth, last].zip segmentLengths) with
    | ok =>
        rw [hcheck] at h
        cases h
    | error failure =>
        rw [hcheck] at h
        cases h
        rfl
  next hother =>
    cases h
    refine .parts fun hcount => ?_
    match segments, hcount with
    | [migVersion, messageType, date, time, first, second, third, fourth, last], _ =>
        exact hother _ _ _ _ _ _ _ _ _ rfl

/-- A parse succeeds exactly if there are nine segments of the expected lengths. -/
theorem parse_succeeds_iff {value : String} {segments : List String}
    (hsegments : Hyphenated value segments) :
    (∃ name, parse value = .ok name) ↔ segments.map len = segmentLengths := by
  constructor
  · intro h
    obtain ⟨name, hname⟩ := h
    obtain ⟨hwell, rfl⟩ := parse_eq_ok_iff.1 hname
    obtain ⟨_, _, _, _, _, hown, hlengths, _⟩ := hwell.hyphenated
    rw [← hyphenated_iff.1 hsegments, hyphenated_iff.1 hown]
    exact hlengths
  · intro hlengths
    cases hparse : parse value with
    | ok name => exact ⟨name, rfl⟩
    | error error =>
        have hcount : segments.length = segmentLengths.length := by
          rw [← hlengths, List.length_map]
        cases misfit_of_parse hsegments hparse with
        | parts hother => exact absurd hcount hother
        | @segment before part after expected _ hparts _ hexpected hlength =>
            -- The segment has the expected length after all, since all of them have.
            rw [← hlengths, hparts, List.map_append, List.map_cons,
              List.getElem?_append_right (by simp), List.length_map, Nat.sub_self,
              List.getElem?_cons_zero] at hexpected
            exact absurd (Option.some.inj hexpected) hlength

/-- The grammar of common names: a name is accepted exactly if it has nine segments of the
expected lengths, it is then what the result renders, so that no other name has this result, and
otherwise the error is the number of segments or the first of a wrong length. -/
theorem common_name_grammar (value : String) :
    ∃ segments, Hyphenated value segments ∧
      ((∃ name, parse value = .ok name) ↔ segments.map len = segmentLengths) ∧
      (∀ name, parse value = .ok name →
        name.render = value ∧ ∀ other, parse other = .ok name → other = value) ∧
      ∀ error, parse value = .error error → Misfit segments error := by
  have hsegments : Hyphenated value ((value.toList.splitOn '-').map String.ofList) :=
    hyphenated_iff.2 rfl
  refine ⟨_, hsegments, parse_succeeds_iff hsegments, fun name hname => ?_, fun error herror =>
    misfit_of_parse hsegments herror⟩
  obtain ⟨_, hrender⟩ := parse_eq_ok_iff.1 hname
  exact ⟨hrender, fun other hother => (parse_eq_ok_iff.1 hother).2.symm.trans hrender⟩

/-! ## Names from parts -/

/-- Names whose first four parts have no hyphen differ in what they render. -/
theorem render_injective_of_apart {name other : MessageCommonName}
    (hname : ∀ part ∈ [name.migVersion, name.messageType, name.date, name.time],
      '-' ∉ part.toList)
    (hother : ∀ part ∈ [other.migVersion, other.messageType, other.date, other.time],
      '-' ∉ part.toList)
    (h : name.render = other.render) : name = other := by
  simp only [List.forall_mem_cons] at hname hother
  rw [← String.toList_inj, render_toList, render_toList,
    append_separator_inj hname.1 hother.1,
    append_separator_inj hname.2.1 hother.2.1,
    append_separator_inj hname.2.2.1 hother.2.2.1,
    append_separator_inj hname.2.2.2.1 hother.2.2.2.1] at h
  obtain ⟨migVersion, messageType, date, time, uuid⟩ := name
  obtain ⟨hversion, htype, hdate, htime, huuid⟩ := h
  simp only [String.toList_inj] at hversion htype hdate htime huuid
  rw [hversion, htype, hdate, htime, huuid]

/-- Parts that are accepted are kept exactly if the first four have no hyphen. -/
theorem from_parts_eq_iff {migVersion messageType date time uuid : String}
    {name : MessageCommonName} (h : fromParts migVersion messageType date time uuid = .ok name) :
    name = ⟨migVersion, messageType, date, time, uuid⟩ ↔
      ∀ part ∈ [migVersion, messageType, date, time], '-' ∉ part.toList := by
  obtain ⟨hname, hrender⟩ := parse_eq_ok_iff.1 h
  constructor
  · rintro rfl
    exact hname.apart
  · intro hparts
    exact render_injective_of_apart hname.apart hparts hrender

/-- `from_parts` keeps the parts it is given exactly if it refuses them or the first four have no
hyphen. -/
theorem from_parts_keeps_iff (migVersion messageType date time uuid : String) :
    (∀ name, fromParts migVersion messageType date time uuid = .ok name →
      name = ⟨migVersion, messageType, date, time, uuid⟩) ↔
    ((∃ segments, Hyphenated (render ⟨migVersion, messageType, date, time, uuid⟩) segments ∧
        segments.map len = segmentLengths) →
      ∀ part ∈ [migVersion, messageType, date, time], '-' ∉ part.toList) := by
  constructor
  · rintro hkeeps ⟨segments, hsegments, hlengths⟩
    obtain ⟨name, hname⟩ := (parse_succeeds_iff hsegments).2 hlengths
    exact (from_parts_eq_iff hname).1 (hkeeps name hname)
  · intro hparts name hname
    obtain ⟨hwell, hrender⟩ := parse_eq_ok_iff.1 hname
    obtain ⟨_, _, _, _, _, hsegments, hlengths, _⟩ := hwell.hyphenated
    rw [hrender] at hsegments
    exact (from_parts_eq_iff hname).2 (hparts ⟨_, hsegments, hlengths⟩)

/-- A version with a hyphen takes the message type with it, and the other parts move up. -/
theorem parts_redistributed :
    ∃ name, fromParts "4.1-F0401" "20260824" "141623456" "550e8400"
        "e29b-41d4-a716-446655440000" = .ok name ∧
      name.migVersion ≠ "4.1-F0401" :=
  ⟨⟨"4.1", "F0401", "20260824", "141623456", "550e8400-e29b-41d4-a716-446655440000"⟩,
    by decide +kernel, by decide⟩

end MessageCommonName

/-! ## Pack filenames -/

namespace TurnkeyPackFilename

/-- What a pack filename renders before its count. -/
def stem (filename : TurnkeyPackFilename) : String :=
  filename.sourceName ++ "_" ++ filename.fromParty ++ "_" ++ filename.toParty ++ "_" ++
    filename.commonName.render

/-- A pack filename that can be read back from what it renders. -/
structure WellFormed (filename : TurnkeyPackFilename) : Prop where
  sourceName : filename.sourceName ≠ ""
  fromParty : '_' ∉ filename.fromParty.toList
  toParty : '_' ∉ filename.toParty.toList
  commonName : '_' ∉ filename.commonName.render.toList
  segments : filename.commonName.WellFormed

/-- The five parts of a pack filename. -/
theorem rsplitn_eq_parts_iff {value count common toParty fromParty sourceName : String} :
    (rsplitn '_' 5 value.toList).map String.ofList =
        [count, common, toParty, fromParty, sourceName] ↔
      (∀ part ∈ [count, common, toParty, fromParty], '_' ∉ part.toList) ∧
        value = sourceName ++ "_" ++ fromParty ++ "_" ++ toParty ++ "_" ++ common ++ "_" ++
          count := by
  have hlists : (rsplitn '_' 5 value.toList).map String.ofList =
        [count, common, toParty, fromParty, sourceName] ↔
      rsplitn '_' 5 value.toList =
        [count, common, toParty, fromParty].map String.toList ++ [sourceName.toList] := by
    constructor
    · intro h
      have hmap := congrArg (List.map String.toList) h
      simpa using hmap
    · intro h
      rw [h]
      simp
  have hjoined := @rsplitn_eq_iff Char _ '_' ([count, common, toParty, fromParty].map
    String.toList) sourceName.toList value.toList
  rw [hlists, ← String.toList_inj]
  refine hjoined.trans (and_congr (by simp) ?_)
  simp

/-- A pack filename is parsed from what a well-formed one renders, with any numeral of its
count. -/
theorem parse_eq_ok_iff {value : String} {filename : TurnkeyPackFilename} :
    parse value = .ok filename ↔ filename.WellFormed ∧
      ∃ count, value = filename.stem ++ "_" ++ count ∧ '_' ∉ count.toList ∧
        parseI32 count = some filename.packCount := by
  constructor
  · intro h
    unfold parse at h
    split at h
    next count common toParty fromParty sourceName hparts =>
      obtain ⟨hapart, hvalue⟩ := rsplitn_eq_parts_iff.1 hparts
      obtain ⟨_, hsource, h⟩ := ok_of_bind_ok h
      obtain ⟨packCount, hcount, h⟩ := ok_of_bind_ok h
      obtain ⟨commonName, hcommon, h⟩ := ok_of_bind_ok h
      cases h
      obtain ⟨hwell, rfl⟩ := MessageCommonName.parse_eq_ok_iff.1 hcommon
      simp only [List.forall_mem_cons] at hapart
      exact ⟨⟨ensure_eq_ok.1 hsource, hapart.2.2.2.1, hapart.2.2.1, hapart.2.1, hwell⟩,
        count, hvalue, hapart.1, ok_or_eq_ok.1 hcount⟩
    next => cases h
  · rintro ⟨hwell, count, hvalue, hcount, hparse⟩
    -- The four parts after the source name are split off from the right.
    have hapart : ∀ part ∈ [count, filename.commonName.render, filename.toParty,
        filename.fromParty], '_' ∉ part.toList := by
      simp only [List.forall_mem_cons]
      exact ⟨hcount, hwell.commonName, hwell.toParty, hwell.fromParty, by simp⟩
    have hsource : ensure (filename.sourceName ≠ "") FilenameError.invalidPackFilename = .ok () :=
      ensure_eq_ok.2 hwell.sourceName
    unfold parse
    rw [rsplitn_eq_parts_iff.2 ⟨hapart, hvalue⟩]
    dsimp only
    rw [hsource, hparse, MessageCommonName.parse_eq_ok_iff.2 ⟨hwell.segments, rfl⟩]
    rfl

/-- A pack filename renders a numeral of its count after the stem. -/
theorem render_numeral (filename : TurnkeyPackFilename) :
    ∃ count, filename.render = filename.stem ++ "_" ++ count ∧ '_' ∉ count.toList ∧
      parseI32 count = some filename.packCount :=
  ⟨toString filename.packCount.toInt, rfl, not_mem_toString (by decide) (by decide) _,
    parse_i32_to_string filename.packCount⟩

/-- A pack filename is read back from what it renders exactly if it is well-formed. The source
name may have any characters. -/
theorem round_trip_iff (filename : TurnkeyPackFilename) :
    parse filename.render = .ok filename ↔ filename.WellFormed :=
  parse_eq_ok_iff.trans (and_iff_left filename.render_numeral)

/-- The parsed filename renders the name up to the numeral of the count, which it renders in its
canonical form. -/
theorem render_parsed {value : String} {filename : TurnkeyPackFilename}
    (h : parse value = .ok filename) :
    ∃ count, '_' ∉ count.toList ∧ readInt count.toList = some filename.packCount.toInt ∧
      value = filename.stem ++ "_" ++ count ∧
      filename.render = filename.stem ++ "_" ++ toString filename.packCount.toInt ∧
      (filename.render = value ↔ isCanonical count.toList = true) := by
  obtain ⟨_, count, hvalue, hapart, hparse⟩ := parse_eq_ok_iff.1 h
  have hread := parse_i32_eq_some.1 hparse
  refine ⟨count, hapart, hread, hvalue, rfl, ?_⟩
  rw [hvalue, ← toString_eq_iff hread]
  exact String.append_right_inj _

/-- A local filename with this numeral of the count. -/
def sampleName (count : String) : String :=
  "erp_0001.xml_12345678_0000000000_4.1-F0401-20260824-141623456-" ++
    "550e8400-e29b-41d4-a716-446655440000_" ++ count

/-- What it is parsed to, for numerals of 27. -/
def sampleParsed : TurnkeyPackFilename where
  sourceName := "erp_0001.xml"
  fromParty := "12345678"
  toParty := "0000000000"
  commonName := ⟨"4.1", "F0401", "20260824", "141623456", "550e8400-e29b-41d4-a716-446655440000"⟩
  packCount := 27

theorem sample_render_parsed :
    ∃ count, '_' ∉ count.toList ∧ readInt count.toList = some sampleParsed.packCount.toInt ∧
      sampleName "27" = sampleParsed.stem ++ "_" ++ count ∧
      sampleParsed.render = sampleParsed.stem ++ "_" ++ toString sampleParsed.packCount.toInt ∧
      (sampleParsed.render = sampleName "27" ↔ isCanonical count.toList = true) :=
  render_parsed (by decide +kernel)

/-- A plus sign before the count is accepted and not rendered. -/
theorem plus_sign_not_rendered :
    parse (sampleName "+27") = .ok sampleParsed ∧ sampleParsed.render ≠ sampleName "+27" :=
  ⟨by decide +kernel, by decide +kernel⟩

end TurnkeyPackFilename

end TwEinvoice.Transport
