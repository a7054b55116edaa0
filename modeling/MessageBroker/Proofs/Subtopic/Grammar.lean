/-
# The grammar of subtopics

Which texts are subtopics, told from the text alone. The separator divides a text into parts,
and each part is judged by itself, up to one question about its place: no part is empty, an
asterisk fills its part alone or with one other, and two of them fill the last part only. The
empty text is a subtopic of its own kind, since it has no part that could be empty.

What is read keeps the text: it can be put together again from the segments. So the segments
tell subtopics apart just as well as their texts do. Whether a text may be sent to is told from
the text as well, by looking for an asterisk, as long as the separator is not one itself: with
an asterisk between the parts, a text has one without any of its parts having it.
-/

import MessageBroker.Proofs.Subtopic.Parsing

namespace MessageBroker

namespace Subtopic

variable {text value : String} {separator : Char} {isLast : Bool} {part : List Char}
  {parts : List (List Char)} {s : Segment} {segments : List Segment} {t : Subtopic}

/-- What a part of a subtopic may be. -/
structure AllowedPart (part : List Char) (isLast : Prop) : Prop where
  nonempty : part ≠ []
  whole : '*' ∈ part → part = ['*'] ∨ part = ['*', '*']
  last : part = ['*', '*'] → isLast

/-- Whether the parts that a separator divides a text into may all stand where they do. -/
def WellDivided (text : String) (separator : Char) : Prop :=
  let parts := text.toList.splitOn separator
  ∀ (i : Nat) (part : List Char), parts[i]? = some part → AllowedPart part (i + 1 = parts.length)

theorem segmentOf_eq_ok_iff (value : String) (isLast : Bool) (part : List Char) :
    (∃ s, segmentOf value isLast part = .ok s) ↔ AllowedPart part (isLast = true) := by
  unfold segmentOf
  constructor
  · rintro ⟨s, hs⟩
    split at hs
    · cases hs
    next hne =>
      refine ⟨hne, fun hstar => ?_, fun hpart => ?_⟩
      · split at hs
        next hone => exact .inl hone
        next =>
          split at hs
          next htwo => exact .inr htwo
          next => cases hs
      · subst hpart
        rw [if_neg (by decide), if_pos rfl] at hs
        split at hs
        next hlast => exact hlast
        next => cases hs
  · rintro ⟨hne, hwhole, hlast⟩
    rw [if_neg hne]
    split
    · exact ⟨_, rfl⟩
    next hone =>
      split
      next htwo => exact ⟨_, if_pos (hlast htwo)⟩
      next htwo => exact ⟨_, if_neg fun hstar => (hwhole hstar).elim hone htwo⟩

theorem segmentsOf_cons_eq_ok_iff {rest : List (List Char)} :
    segmentsOf value (part :: rest) = .ok segments ↔
      ∃ s others, segmentOf value rest.isEmpty part = .ok s ∧
        segmentsOf value rest = .ok others ∧ segments = s :: others := by
  rw [segmentsOf]
  cases hs : segmentOf value rest.isEmpty part with
  | error e => simp [bind, Except.bind]
  | ok s =>
    cases hothers : segmentsOf value rest with
    | error e => simp [bind, Except.bind]
    | ok others => simp [bind, Except.bind, pure, Except.pure, eq_comm]

/-- Parts are read when each of them may stand where it does. -/
theorem segmentsOf_eq_ok_iff (value : String) :
    (∃ segments, segmentsOf value parts = .ok segments) ↔
      ∀ (i : Nat) (part : List Char), parts[i]? = some part →
        AllowedPart part (i + 1 = parts.length) := by
  -- A part is the last of a list exactly if nothing follows it, whichever parts came before.
  induction parts with
  | nil => exact ⟨fun _ _ _ h => (nomatch h), fun _ => ⟨[], rfl⟩⟩
  | cons first rest ih =>
    have hlast : (rest.isEmpty = true) = (0 + 1 = (first :: rest).length) := by
      cases rest <;> simp
    have hfirst := segmentOf_eq_ok_iff value rest.isEmpty first
    rw [hlast] at hfirst
    constructor
    · rintro ⟨segments, h⟩ i part hpart
      obtain ⟨s, others, hs, hothers, -⟩ := segmentsOf_cons_eq_ok_iff.mp h
      cases i with
      | zero =>
        cases hpart
        exact hfirst.mp ⟨s, hs⟩
      | succ i =>
        rw [List.length_cons, Nat.succ_inj]
        exact ih.mp ⟨others, hothers⟩ i part hpart
    · intro h
      obtain ⟨s, hs⟩ := hfirst.mpr (h 0 first rfl)
      obtain ⟨others, hothers⟩ := ih.mpr fun i part hpart => by
        have hallowed := h (i + 1) part hpart
        rwa [List.length_cons, Nat.succ_inj] at hallowed
      exact ⟨s :: others, segmentsOf_cons_eq_ok_iff.mpr ⟨s, others, hs, hothers, rfl⟩⟩

theorem parse_eq_ok_iff :
    (∃ t, parse text separator = .ok t) ↔ text = "" ∨ WellDivided text separator := by
  by_cases hempty : text = ""
  · rw [parse, if_pos hempty]
    exact ⟨fun _ => .inl hempty, fun _ => ⟨_, rfl⟩⟩
  · rw [or_iff_right hempty, WellDivided, ← segmentsOf_eq_ok_iff text]
    constructor
    · rintro ⟨t, ht⟩
      exact ⟨t.segments, (parse_of_ne_empty hempty ht).1⟩
    · rintro ⟨segments, hsegments⟩
      refine ⟨⟨text, separator, segments⟩, ?_⟩
      rw [parse, if_neg hempty, hsegments]
      rfl

/-- Segments put together again, with the separator between them, are the text. -/
theorem intercalate_toText_of_parse (h : parse text separator = .ok t) :
    separator.toString.intercalate (t.segments.map (·.toText)) = text := by
  apply String.toList_injective
  rw [String.toList_intercalate, List.map_map, Char.toString, String.toList_singleton]
  exact intercalate_segments_of_parse h

/-! ## Asterisks -/

/-- What is not the separator comes from one of the parts. -/
theorem mem_intercalate_iff {x : Char} (hne : x ≠ separator) :
    x ∈ [separator].intercalate parts ↔ ∃ part ∈ parts, x ∈ part := by
  induction parts with
  | nil => simp
  | cons part rest ih =>
    cases rest with
    | nil => simp
    | cons next rest =>
      rw [List.intercalate_cons_cons, List.mem_append, List.mem_append, ih]
      simp [hne]

/-- A segment that was read is a wildcard when there is an asterisk in its text. -/
theorem mem_toText_iff_of_segmentOf (h : segmentOf value isLast part = .ok s) :
    '*' ∈ s.toText.toList ↔ s.isLiteral = false := by
  unfold segmentOf at h
  split at h
  · cases h
  · split at h
    · cases h
      simp [Segment.toText, Segment.isLiteral]
    · split at h
      · split at h
        · cases h
          simp [Segment.toText, Segment.isLiteral]
        · cases h
      · split at h
        · cases h
        next hnone =>
          cases h
          simp [Segment.toText, Segment.isLiteral, hnone]

/-- Each segment was read from a part. -/
theorem exists_segmentOf_of_mem (h : segmentsOf value parts = .ok segments) (hs : s ∈ segments) :
    ∃ part isLast, segmentOf value isLast part = .ok s := by
  induction parts generalizing segments with
  | nil =>
    cases h
    cases hs
  | cons part rest ih =>
    obtain ⟨first, others, hfirst, hothers, rfl⟩ := segmentsOf_cons_eq_ok_iff.mp h
    rcases List.mem_cons.mp hs with rfl | hs
    · exact ⟨part, rest.isEmpty, hfirst⟩
    · exact ih hothers hs

theorem hasWildcard_iff_of_parse (hseparator : separator ≠ '*')
    (h : parse text separator = .ok t) : t.hasWildcard = true ↔ '*' ∈ text.toList := by
  rw [← intercalate_segments_of_parse h, mem_intercalate_iff (Ne.symm hseparator), hasWildcard,
    List.any_eq_true]
  by_cases hempty : text = ""
  -- The one part of the empty text is not read at all, so there is no segment to ask.
  · rw [parse, if_pos hempty] at h
    cases h
    simp [empty]
  · have hsegments := (parse_of_ne_empty hempty h).1
    constructor
    · rintro ⟨s, hs, hwild⟩
      obtain ⟨part, isLast, hpart⟩ := exists_segmentOf_of_mem hsegments hs
      exact ⟨_, List.mem_map_of_mem hs,
        (mem_toText_iff_of_segmentOf hpart).mpr (by simpa using hwild)⟩
    · rintro ⟨_, hmem, hstar⟩
      obtain ⟨s, hs, rfl⟩ := List.mem_map.mp hmem
      obtain ⟨part, isLast, hpart⟩ := exists_segmentOf_of_mem hsegments hs
      exact ⟨s, hs, by simpa using (mem_toText_iff_of_segmentOf hpart).mp hstar⟩

theorem parseForMessage_eq_ok_iff (hseparator : separator ≠ '*') :
    parseForMessage text separator = .ok t ↔
      parse text separator = .ok t ∧ '*' ∉ text.toList := by
  rw [parseForMessage]
  cases h : parse text separator with
  | error e => exact ⟨nofun, fun h => nomatch h.1⟩
  | ok u =>
    show (if u.hasWildcard then _ else _) = _ ↔ _
    rw [← hasWildcard_iff_of_parse hseparator h]
    split
    next hwild => exact ⟨nofun, fun hboth => absurd hwild hboth.2⟩
    next hplain => exact ⟨fun heq => ⟨heq, hplain⟩, fun hboth => hboth.1⟩

/-- Reading accepts the empty text and the texts whose parts are all allowed. What is read has
the text as its value and gives it back from its segments, so that with one separator it has
the segments of another subtopic exactly if it has its value. Texts that messages may be sent
to are those without an asterisk, unless the separator is one. -/
theorem parse_exact (text : String) (separator : Char) :
    ((∃ t, parse text separator = .ok t) ↔ text = "" ∨ WellDivided text separator) ∧
    (∀ t, parse text separator = .ok t →
      t.value = text ∧ separator.toString.intercalate (t.segments.map (·.toText)) = text ∧
      ∀ other u, parse other separator = .ok u →
        (t.segments = u.segments ↔ t.value = u.value)) ∧
    (separator ≠ '*' → ∀ t, parseForMessage text separator = .ok t ↔
      parse text separator = .ok t ∧ '*' ∉ text.toList) := by
  refine ⟨parse_eq_ok_iff, fun t ht => ?_, fun hseparator t =>
    parseForMessage_eq_ok_iff hseparator⟩
  refine ⟨(value_separator_of_parse ht).1, intercalate_toText_of_parse ht, fun other u hu => ?_⟩
  have htext : t.ParsedWith separator := ⟨text, ht⟩
  have hother : u.ParsedWith separator := ⟨other, hu⟩
  constructor
  · intro hsegments
    rw [htext.eq_of_segments_eq hother hsegments]
  · intro hvalue
    rw [htext.eq_of_value_eq hother hvalue]

theorem parse_exact_sports :
    '.' ≠ '*' ∧ parse "sports.*" '.' = .ok ⟨"sports.*", '.', [.literal "sports", .any]⟩ ∧
      ".".intercalate ["sports", "*"] = "sports.*" ∧
      ¬∃ t, parseForMessage "sports.*" '.' = .ok t := by
  have hparse : parse "sports.*" '.' = .ok ⟨"sports.*", '.', [.literal "sports", .any]⟩ := by
    cbv
  obtain ⟨-, hread, hmessage⟩ := parse_exact "sports.*" '.'
  refine ⟨by decide, hparse, (hread _ hparse).2.1, ?_⟩
  rintro ⟨t, ht⟩
  exact ((hmessage (by decide) t).mp ht).2 (by decide)

end Subtopic

end MessageBroker
