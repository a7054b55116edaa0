/-
# What a pattern admits

The comparison of a pattern with a subtopic walks through both of them at once and stops early at
two asterisks. What it decides can be told by place instead: each segment of the pattern covers
the segment at its own place, one asterisk any segment and a literal itself only, and the lengths
agree. Where the pattern ends in two asterisks, what comes before them is compared in the same way
and the subtopic may go on as it likes. The two accounts agree because reading allows the two
asterisks in last place only.

Nothing is asked of the subtopic but that it was read, so it may be a pattern itself; its asterisks
are then covered by asterisks alone. Subtopics with different separators are not compared at all.
-/

import Mathlib.Data.List.Basic
import MessageBroker.Error
import MessageBroker.Proofs.Subtopic.Grammar

namespace MessageBroker

/-- A segment of a pattern covers a segment at its place: any one, or the same literal. -/
def Segment.Covers (p s : Segment) : Prop :=
  p = .any ∨ ∃ text, p = .literal text ∧ s = .literal text

namespace Subtopic

variable {p s : Segment} {pattern candidate segments : List Segment}

/-- Wherever both have a segment, that of the first covers that of the second. -/
def CoversPlaces (pattern candidate : List Segment) : Prop :=
  ∀ (i : Nat) (p s : Segment), pattern[i]? = some p → candidate[i]? = some s → p.Covers s

/-- What it takes for a subtopic to fall under a pattern, told by place. -/
def FallsUnder (candidate pattern : List Segment) : Prop :=
  (pattern.getLast? ≠ some .anyRemaining ∧ pattern.length = candidate.length ∧
    CoversPlaces pattern candidate) ∨
  ∃ q, pattern = q ++ [.anyRemaining] ∧ q.length ≤ candidate.length ∧ CoversPlaces q candidate

@[simp]
theorem coversPlaces_nil_left (candidate : List Segment) : CoversPlaces [] candidate := by
  simp [CoversPlaces]

theorem coversPlaces_cons :
    CoversPlaces (p :: pattern) (s :: candidate) ↔ p.Covers s ∧ CoversPlaces pattern candidate := by
  constructor
  · intro h
    exact ⟨h 0 p s rfl rfl, fun i => h (i + 1)⟩
  · rintro ⟨hfirst, hrest⟩ i q c hq hc
    cases i with
    | zero =>
      cases hq
      cases hc
      exact hfirst
    | succ i => exact hrest i q c hq hc

/-! ## One segment of the pattern after the other -/

theorem admits_cons_nil (hp : p ≠ .anyRemaining) : admits (p :: pattern) [] = false := by
  cases p with
  | anyRemaining => contradiction
  | any => rfl
  | literal _ => rfl

theorem admits_cons_cons (hp : p ≠ .anyRemaining) :
    admits (p :: pattern) (s :: candidate) = true ↔
      p.Covers s ∧ admits pattern candidate = true := by
  cases p with
  | anyRemaining => contradiction
  | any => simp [admits, Segment.Covers]
  | literal text => cases s <;> simp [admits, Segment.Covers, @eq_comm _ text]

/-- A pattern without two asterisks covers as many segments as it has. -/
theorem admits_iff_of_not_mem (h : .anyRemaining ∉ pattern) :
    admits pattern candidate = true ↔
      pattern.length = candidate.length ∧ CoversPlaces pattern candidate := by
  induction pattern generalizing candidate with
  | nil => cases candidate <;> simp [admits]
  | cons p rest ih =>
    rw [List.mem_cons, not_or] at h
    obtain ⟨hp, hrest⟩ := h
    cases candidate with
    | nil => simp [admits_cons_nil (Ne.symm hp)]
    | cons s candidate =>
      rw [admits_cons_cons (Ne.symm hp), ih hrest, coversPlaces_cons, List.length_cons,
        List.length_cons, Nat.succ_inj]
      exact and_left_comm

/-- What comes before two asterisks covers the beginning. -/
theorem admits_append_anyRemaining_iff (h : .anyRemaining ∉ pattern) :
    admits (pattern ++ [.anyRemaining]) candidate = true ↔
      pattern.length ≤ candidate.length ∧ CoversPlaces pattern candidate := by
  induction pattern generalizing candidate with
  | nil => simp [admits]
  | cons p rest ih =>
    rw [List.mem_cons, not_or] at h
    obtain ⟨hp, hrest⟩ := h
    rw [List.cons_append]
    cases candidate with
    | nil => simp [admits_cons_nil (Ne.symm hp)]
    | cons s candidate =>
      rw [admits_cons_cons (Ne.symm hp), ih hrest, coversPlaces_cons, List.length_cons,
        List.length_cons, Nat.succ_le_succ_iff]
      exact and_left_comm

/-- With two asterisks in last place at most, admitting is covering by place. -/
theorem admits_iff_fallsUnder (h : .anyRemaining ∉ pattern.dropLast) :
    admits pattern candidate = true ↔ FallsUnder candidate pattern := by
  rcases List.eq_nil_or_concat' pattern with rfl | ⟨q, last, rfl⟩
  · simp [FallsUnder, admits_iff_of_not_mem]
  · rw [List.dropLast_concat] at h
    by_cases hlast : last = .anyRemaining
    · subst hlast
      simp [FallsUnder, admits_append_anyRemaining_iff h]
    · have hnot : Segment.anyRemaining ∉ q ++ [last] := by simp [h, Ne.symm hlast]
      simp [FallsUnder, admits_iff_of_not_mem hnot, hlast]

/-- Segments admit themselves, wildcards included. -/
theorem admits_self (segments : List Segment) : admits segments segments = true := by
  induction segments with
  | nil => rfl
  | cons s rest ih =>
    cases s with
    | anyRemaining => rfl
    | any => exact ih
    | literal text => simp [admits, ih]

/-! ## Subtopics that were read -/

variable {value : String} {isLast : Bool} {part : List Char} {parts : List (List Char)}
  {separator : Char} {t pat : Subtopic}

/-- Only in last place is a part read as two asterisks. -/
theorem isLast_of_segmentOf (h : segmentOf value isLast part = .ok .anyRemaining) :
    isLast = true := by
  unfold segmentOf at h
  grind

/-- Two asterisks stand in last place only. -/
theorem anyRemaining_not_mem_dropLast_of_segmentsOf (h : segmentsOf value parts = .ok segments) :
    .anyRemaining ∉ segments.dropLast := by
  induction parts generalizing segments with
  | nil =>
    cases h
    simp
  | cons part rest ih =>
    obtain ⟨s, others, hs, hothers, rfl⟩ := segmentsOf_cons_eq_ok_iff.mp h
    cases others with
    | nil => simp
    | cons next others =>
      rw [List.dropLast_cons_cons, List.mem_cons, not_or]
      constructor
      · rintro rfl
        -- The two asterisks would have to be the last part, but another segment was read.
        rw [List.isEmpty_iff.mp (isLast_of_segmentOf hs)] at hothers
        cases hothers
      · exact ih hothers

theorem ParsedWith.anyRemaining_not_mem_dropLast (h : t.ParsedWith separator) :
    .anyRemaining ∉ t.segments.dropLast := by
  obtain ⟨text, htext⟩ := h
  by_cases hempty : text = ""
  · rw [parse, if_pos hempty] at htext
    cases htext
    simp [empty]
  · exact anyRemaining_not_mem_dropLast_of_segmentsOf (parse_of_ne_empty hempty htext).1

theorem ParsedWith.matchedBy_iff_fallsUnder (h : pat.ParsedWith separator) :
    t.matchedBy pat = true ↔ FallsUnder t.segments pat.segments :=
  admits_iff_fallsUnder h.anyRemaining_not_mem_dropLast

/-- Two asterisks alone are read as such, unless they are separators. -/
theorem segments_of_parse_remaining (h : parse "**" separator = .ok pat) :
    pat.segments = [.anyRemaining] := by
  have hsegments := (parse_of_ne_empty (by decide) h).1
  by_cases hseparator : separator = '*'
  -- Divided at its asterisks the text has empty parts, which nothing is read from.
  · subst hseparator
    have hnone := segmentsOf_eq_ok_iff "**" |>.mp ⟨_, hsegments⟩ 0 [] (by decide)
    exact absurd rfl hnone.nonempty
  · have hsplit : "**".toList.splitOn separator = [['*', '*']] :=
      List.splitOn_eq_singleton (by simp [hseparator])
    rw [hsplit] at hsegments
    exact (Except.ok.inj hsegments).symm

/-- Nothing but the empty text is read as no segments. -/
theorem ParsedWith.segments_eq_nil_iff (h : t.ParsedWith separator) :
    t.segments = [] ↔ t.value = "" := by
  have hempty := parsedWith_empty separator
  constructor
  · intro hsegments
    rw [h.eq_of_segments_eq hempty hsegments, empty]
  · intro hvalue
    rw [h.eq_of_value_eq hempty hvalue, empty]

/-- Subtopics are compared where their separators agree. A pattern without two asterisks at its
end then admits what has as many segments and is covered at every place, and one with them what
has at least as many segments as come before them and is covered by those. So a subtopic admits
itself, a pattern without wildcards nothing else, the empty one the empty one only, and two
asterisks alone admit everything. -/
theorem matches_exact {text pattern : String} {separator other : Char} {t p : Subtopic}
    (ht : parse text separator = .ok t) (hp : parse pattern other = .ok p) :
    (separator ≠ other → ∃ e, t.matches p = .error e ∧ e.category = .configuration) ∧
    t.matches t = .ok true ∧
    (separator = other → ∃ answer, t.matches p = .ok answer ∧
      (answer = true ↔ FallsUnder t.segments p.segments) ∧
      (p.hasWildcard = false → (answer = true ↔ text = pattern)) ∧
      (pattern = "" → (answer = true ↔ text = "")) ∧
      (pattern = "**" → answer = true)) := by
  obtain ⟨htext, hseparator⟩ := value_separator_of_parse ht
  obtain ⟨hpattern, hother⟩ := value_separator_of_parse hp
  refine ⟨fun hne => ?mismatch, ?itself, ?compared⟩
  case mismatch =>
    rw [← hseparator, ← hother] at hne
    exact ⟨_, if_neg hne, rfl⟩
  case itself =>
    rw [Subtopic.matches, if_pos rfl, matchedBy, admits_self]
  case compared =>
    rintro rfl
    have hread : t.ParsedWith separator := ⟨text, ht⟩
    have hreadPattern : p.ParsedWith separator := ⟨pattern, hp⟩
    refine ⟨t.matchedBy p, if_pos (hseparator.trans hother.symm),
      hreadPattern.matchedBy_iff_fallsUnder, fun hplain => ?plain, fun hempty => ?empty,
      fun hremaining => ?remaining⟩
    case plain =>
      rw [hread.matchedBy_iff_value_eq hreadPattern hplain, htext, hpattern]
    case empty =>
      have hsegments := hreadPattern.segments_eq_nil_iff.mpr (hpattern.trans hempty)
      rw [matchedBy, hsegments, ← htext, ← hread.segments_eq_nil_iff]
      cases t.segments <;> simp [admits]
    case remaining =>
      subst hremaining
      rw [matchedBy, segments_of_parse_remaining hp]
      rfl

theorem matches_exact_sports :
    parse "sports.hockey" '.' = .ok ⟨"sports.hockey", '.', [.literal "sports", .literal "hockey"]⟩ ∧
      parse "sports.**" '.' = .ok ⟨"sports.**", '.', [.literal "sports", .anyRemaining]⟩ ∧
      FallsUnder [.literal "sports", .literal "hockey"] [.literal "sports", .anyRemaining] := by
  have hhockey : parse "sports.hockey" '.' =
      .ok ⟨"sports.hockey", '.', [.literal "sports", .literal "hockey"]⟩ := by cbv
  have hpattern : parse "sports.**" '.' =
      .ok ⟨"sports.**", '.', [.literal "sports", .anyRemaining]⟩ := by cbv
  obtain ⟨-, -, hcompared⟩ := matches_exact hhockey hpattern
  obtain ⟨answer, hanswer, hfalls, -⟩ := hcompared rfl
  cases hanswer
  exact ⟨hhockey, hpattern, hfalls.mp rfl⟩

end Subtopic

end MessageBroker
