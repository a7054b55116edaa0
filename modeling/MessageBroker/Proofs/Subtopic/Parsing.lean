/-
# Reading subtopics

What a reader of subtopics accepts can be written down again: the segments of a subtopic,
joined by its separator, are the text it was read from. So two subtopics with the same
separator have the same segments exactly when they have the same text. A pattern without
wildcards admits nothing but itself, and together this makes the comparison of texts a
sound shortcut for matching, which is what the index of plain subtopics relies on.
-/

import MessageBroker.Subtopic

namespace MessageBroker

namespace Subtopic

/-- A subtopic that was read from some text. -/
def ParsedWith (separator : Char) (t : Subtopic) : Prop :=
  ∃ text, parse text separator = .ok t

/-- A segment is written as the part it was read from. -/
theorem toText_of_segmentOf {value : String} {isLast : Bool} {part : List Char} {s : Segment}
    (h : segmentOf value isLast part = .ok s) : s.toText.toList = part := by
  unfold segmentOf at h
  split at h
  · cases h
  · split at h
    next hpart =>
      cases h
      simp [Segment.toText, hpart]
    next =>
      split at h
      next hpart =>
        split at h
        · cases h
          simp [Segment.toText, hpart]
        · cases h
      next =>
        split at h
        · cases h
        · cases h
          simp [Segment.toText]

/-- Segments are written as the parts they were read from. -/
theorem map_toText_of_segmentsOf {value : String} {parts : List (List Char)}
    {segments : List Segment} (h : segmentsOf value parts = .ok segments) :
    segments.map (·.toText.toList) = parts := by
  induction parts generalizing segments with
  | nil =>
    cases h
    rfl
  | cons part rest ih =>
    unfold segmentsOf at h
    cases hpart : segmentOf value rest.isEmpty part with
    | error e => simp [hpart, bind, Except.bind] at h
    | ok s =>
      cases hrest : segmentsOf value rest with
      | error e => simp [hpart, hrest, bind, Except.bind] at h
      | ok ss =>
        have hsegments : s :: ss = segments := by
          simpa [hpart, hrest, bind, Except.bind, pure, Except.pure] using h
        rw [← hsegments, List.map_cons, toText_of_segmentOf hpart, ih hrest]

/-- What reading a text that is not empty answers. -/
theorem parse_of_ne_empty {text : String} {separator : Char} {t : Subtopic} (hne : text ≠ "")
    (h : parse text separator = .ok t) :
    segmentsOf text (text.toList.splitOn separator) = .ok t.segments ∧
      t = ⟨text, separator, t.segments⟩ := by
  rw [parse, if_neg hne] at h
  cases hs : segmentsOf text (text.toList.splitOn separator) with
  | error e => simp [hs, bind, Except.bind] at h
  | ok segments =>
    have ht : (⟨text, separator, segments⟩ : Subtopic) = t := by
      simpa [hs, bind, Except.bind, pure, Except.pure] using h
    subst ht
    exact ⟨rfl, rfl⟩

/-- A subtopic remembers its text and its separator. -/
theorem value_separator_of_parse {text : String} {separator : Char} {t : Subtopic}
    (h : parse text separator = .ok t) : t.value = text ∧ t.separator = separator := by
  by_cases hne : text = ""
  · rw [parse, if_pos hne] at h
    cases h
    exact ⟨hne.symm, rfl⟩
  · rw [(parse_of_ne_empty hne h).2]
    exact ⟨rfl, rfl⟩

/-- The segments of a subtopic, joined by the separator, are its text. -/
theorem intercalate_segments_of_parse {text : String} {separator : Char} {t : Subtopic}
    (h : parse text separator = .ok t) :
    [separator].intercalate (t.segments.map (·.toText.toList)) = text.toList := by
  by_cases hne : text = ""
  · rw [parse, if_pos hne] at h
    cases h
    subst hne
    rfl
  · rw [map_toText_of_segmentsOf (parse_of_ne_empty hne h).1, List.intercalate_splitOn]

/-- A subtopic that was read is what its own text reads as. -/
theorem ParsedWith.parse_value {separator : Char} {t : Subtopic} (h : t.ParsedWith separator) :
    parse t.value separator = .ok t := by
  obtain ⟨text, htext⟩ := h
  rw [(value_separator_of_parse htext).1, htext]

/-- The separator that a subtopic was read with is its own. -/
theorem ParsedWith.separator_eq {separator : Char} {t : Subtopic} (h : t.ParsedWith separator) :
    t.separator = separator :=
  (value_separator_of_parse h.parse_value).2

/-- The empty subtopic is read from the empty text. -/
theorem parsedWith_empty (separator : Char) : (empty separator).ParsedWith separator :=
  ⟨"", by rw [parse, if_pos rfl]⟩

/-- Subtopics read with one separator that have the same text are the same. -/
theorem ParsedWith.eq_of_value_eq {separator : Char} {t p : Subtopic}
    (ht : t.ParsedWith separator) (hp : p.ParsedWith separator) (h : t.value = p.value) :
    t = p := by
  have htext := ht.parse_value
  rw [h, hp.parse_value] at htext
  exact (Except.ok.inj htext).symm

/-- Subtopics read with one separator that have the same segments are the same. -/
theorem ParsedWith.eq_of_segments_eq {separator : Char} {t p : Subtopic}
    (ht : t.ParsedWith separator) (hp : p.ParsedWith separator) (h : t.segments = p.segments) :
    t = p := by
  apply ht.eq_of_value_eq hp
  apply String.toList_injective
  rw [← intercalate_segments_of_parse ht.parse_value, h,
    intercalate_segments_of_parse hp.parse_value]

/-- A pattern of literals lets exactly the same literals through. -/
theorem admits_iff_of_all_isLiteral {pattern : List Segment}
    (h : ∀ s ∈ pattern, s.isLiteral = true) (candidate : List Segment) :
    admits pattern candidate = true ↔ candidate = pattern := by
  induction pattern generalizing candidate with
  | nil => cases candidate <;> simp [admits]
  | cons p rest ih =>
    have hrest := ih fun s hs => h s (List.mem_cons_of_mem _ hs)
    cases p with
    | any => simp [Segment.isLiteral] at h
    | anyRemaining => simp [Segment.isLiteral] at h
    | literal text =>
      cases candidate with
      | nil => simp [admits]
      | cons c cs =>
        cases c with
        | any => simp [admits]
        | anyRemaining => simp [admits]
        | literal other =>
          rw [admits, Bool.and_eq_true, beq_iff_eq, hrest cs, List.cons.injEq,
            Segment.literal.injEq]
          exact and_congr_left fun _ => eq_comm

/-- A subtopic without wildcards consists of literals. -/
theorem isLiteral_of_not_hasWildcard {p : Subtopic} (h : p.hasWildcard = false) :
    ∀ s ∈ p.segments, s.isLiteral = true := by
  intro s hs
  have hnot := List.any_eq_false.mp h s hs
  simpa using hnot

/-- Where the pattern has no wildcard, comparing texts is matching. -/
theorem ParsedWith.matchedBy_iff_value_eq {separator : Char} {t p : Subtopic}
    (ht : t.ParsedWith separator) (hp : p.ParsedWith separator) (h : p.hasWildcard = false) :
    t.matchedBy p = true ↔ t.value = p.value := by
  rw [matchedBy, admits_iff_of_all_isLiteral (isLiteral_of_not_hasWildcard h)]
  constructor
  · intro hsegments
    rw [ht.eq_of_segments_eq hp hsegments]
  · intro hvalue
    rw [ht.eq_of_value_eq hp hvalue]

end Subtopic

end MessageBroker
