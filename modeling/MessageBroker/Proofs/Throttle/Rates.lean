/-
# Bounds on admissions

How much a limiter can let pass. A counter admits no more messages in one of its windows
than its ceiling, and its windows start at least their length apart. So whatever a limiter is
asked, a stretch of time as long as a window overlaps at most two windows of a counter, and
admits at most twice its ceiling.

The argument is about one counter and does not look at limiters: a course of a counter is
what happens to it step after step, and every admission in it bears the start of the window
that it is counted in. The counters of destinations and of clients both go through such
courses, where a client's begins with the counter as it is found and lasts until the client
is removed. Refusals restart windows too, and slots are given back in between; both are steps
of a course that count nothing.
-/

import Mathlib.Data.List.Pairwise
import Mathlib.Data.Rat.Floor
import MessageBroker.Proofs.Throttle.Checking

open Std

namespace MessageBroker

/-- Admissions at some times keep to a quota: any stretch of time of a length has at most
twice as many, and there are no more of them from one window's start to the next. -/
structure WithinQuota (quota : Nat) (length : Int) (starts times : List Int) : Prop where
  interval : ∀ a, times.countP (fun t => a ≤ t ∧ t < a + length) ≤ 2 * quota
  window : ∀ s ∈ starts, ∀ u, (∀ s' ∈ starts, s' ≤ s ∨ u ≤ s') →
    times.countP (fun t => s ≤ t ∧ t < u) ≤ quota

namespace Window

variable {w w' : Window} {length now now' s : Int} {ceiling : Nat} {admitted : Bool}
  {counted : List (Int × Int)} {starts : List Int}

/-- A counter that is asked goes on with its window, or begins a new one. -/
theorem Asked.cases (h : Asked length ceiling now admitted w w') :
    (Timestamp.since now w.start < length ∧ w'.start = w.start ∧
        w'.count = w.count + (if admitted then 1 else 0) ∧ (admitted = true → w.count < ceiling)) ∨
      (length ≤ Timestamp.since now w.start ∧ w'.start = now ∧
        w'.count = (if admitted then 1 else 0) ∧ (admitted = true → 0 < ceiling)) := by
  obtain ⟨hstart, hcount, hroom⟩ := h
  unfold roll at hstart hcount hroom
  split at hstart
  next hlasted =>
    rw [if_pos hlasted] at hcount hroom
    exact .inr ⟨hlasted, hstart, by rw [hcount, Nat.zero_add], hroom⟩
  next hlasts =>
    rw [if_neg hlasts] at hcount hroom
    exact .inl ⟨Int.not_le.mp hlasts, hstart, hcount, hroom⟩

/-- The window of a counter that was asked has not lasted its length. -/
theorem Asked.lasts (h : Asked length ceiling now admitted w w') (hlength : 0 < length) :
    Timestamp.since now w'.start < length := by
  rcases h.cases with ⟨hlasts, hsame, -⟩ | ⟨-, hnew, -⟩
  · rw [hsame]
    exact hlasts
  · rw [hnew, Timestamp.since_self]
    exact hlength

theorem Asked.start_le (h : Asked length ceiling now admitted w w') (hw : w.start ≤ now) :
    w'.start ≤ now := by
  rcases h.cases with ⟨-, hsame, -⟩ | ⟨-, hnew, -⟩
  · rw [hsame]
    exact hw
  · rw [hnew]

/-- A counter with a higher ceiling has room for as much. -/
theorem Asked.mono {more : Nat} (h : Asked length ceiling now admitted w w')
    (hle : ceiling ≤ more) : Asked length more now admitted w w' :=
  ⟨h.start, h.count, fun hadmitted => Nat.lt_of_lt_of_le (h.room hadmitted) hle⟩

/-- What happens to a counter from a time on: the admissions that it counts, each with its
time and the start of its window, and the starts of the windows that it goes through. -/
inductive Course (length : Int) (ceiling : Nat) :
    Int → Window → List (Int × Int) → List Int → Prop
  | done {now : Int} {w : Window} : Course length ceiling now w [] [w.start]
  | idle {now : Int} {w : Window} {counted : List (Int × Int)} {starts : List Int}
      (rest : Course length ceiling now w counted starts) :
      Course length ceiling now w counted (w.start :: starts)
  | refused {now now' : Int} {w w' : Window} {counted : List (Int × Int)} {starts : List Int}
      (later : now ≤ now') (step : Asked length ceiling now' false w w')
      (rest : Course length ceiling now' w' counted starts) :
      Course length ceiling now w counted (w.start :: starts)
  | admitted {now now' : Int} {w w' : Window} {counted : List (Int × Int)} {starts : List Int}
      (later : now ≤ now') (step : Asked length ceiling now' true w w')
      (rest : Course length ceiling now' w' counted starts) :
      Course length ceiling now w ((now', w'.start) :: counted) (w.start :: starts)

namespace Course

theorem start_mem (h : Course length ceiling now w counted starts) : w.start ∈ starts := by
  cases h <;> exact List.mem_cons_self

/-- An admission falls in the window that counts it. -/
theorem falls (h : Course length ceiling now w counted starts) (hstart : w.start ≤ now)
    {x : Int × Int} (hx : x ∈ counted) : x.2 ∈ starts ∧ x.2 ≤ x.1 := by
  induction h with
  | done => cases hx
  | idle _ ih => exact ⟨List.mem_cons_of_mem _ (ih hstart hx).1, (ih hstart hx).2⟩
  | refused later step _ ih =>
    have hrest := ih (step.start_le (Int.le_trans hstart later)) hx
    exact ⟨List.mem_cons_of_mem _ hrest.1, hrest.2⟩
  | @admitted now now' w w' counted starts later step rest ih =>
    have hstart' := step.start_le (Int.le_trans hstart later)
    rcases List.mem_cons.mp hx with rfl | hx
    · exact ⟨List.mem_cons_of_mem _ rest.start_mem, hstart'⟩
    · exact ⟨List.mem_cons_of_mem _ (ih hstart' hx).1, (ih hstart' hx).2⟩

section

variable (hlength : 0 < length)
include hlength

/-- A start that is late enough for a window is late enough for the one before. -/
theorem start_of_asked (step : Asked length ceiling now admitted w w') (hstart : w.start ≤ now)
    (hs : s = w'.start ∨ length ≤ s - w'.start) : s = w.start ∨ length ≤ s - w.start := by
  rcases step.cases with ⟨-, hsame, -⟩ | ⟨hlasted, hnew, -⟩
  · rwa [hsame] at hs
  · have hapart := hlasted.trans (Timestamp.since_le hstart)
    rw [hnew] at hs
    omega

/-- A window starts where the current one does, or after that has lasted its length. -/
theorem start_of_mem (h : Course length ceiling now w counted starts) (hstart : w.start ≤ now)
    (hs : s ∈ starts) : s = w.start ∨ length ≤ s - w.start := by
  induction h with
  | done => exact .inl (List.mem_singleton.mp hs)
  | idle _ ih => exact (List.mem_cons.mp hs).elim .inl (ih hstart)
  | refused later step _ ih | admitted later step _ ih =>
    have hbefore := Int.le_trans hstart later
    exact (List.mem_cons.mp hs).elim .inl fun hs =>
      start_of_asked hlength step hbefore (ih (step.start_le hbefore) hs)

/-- Different windows start at least their length apart. -/
theorem spaced (h : Course length ceiling now w counted starts) (hstart : w.start ≤ now) :
    starts.Pairwise fun s s' => s' = s ∨ length ≤ s' - s := by
  have hhead {now : Int} {w : Window} {counted : List (Int × Int)} {starts : List Int}
      (h : Course length ceiling now w counted (w.start :: starts)) (hstart : w.start ≤ now) :
      ∀ s ∈ starts, s = w.start ∨ length ≤ s - w.start :=
    fun _ hs => h.start_of_mem hlength hstart (List.mem_cons_of_mem _ hs)
  induction h with
  | done => exact List.pairwise_singleton _ _
  | idle rest ih => exact List.pairwise_cons.mpr ⟨hhead (.idle rest) hstart, ih hstart⟩
  | refused later step rest ih =>
    exact List.pairwise_cons.mpr ⟨hhead (.refused later step rest) hstart,
      ih (step.start_le (Int.le_trans hstart later))⟩
  | admitted later step rest ih =>
    exact List.pairwise_cons.mpr ⟨hhead (.admitted later step rest) hstart,
      ih (step.start_le (Int.le_trans hstart later))⟩

theorem eq_or_apart (h : Course length ceiling now w counted starts) (hstart : w.start ≤ now)
    (hs : s ∈ starts) (hs' : s' ∈ starts) : s = s' ∨ length ≤ s' - s ∨ length ≤ s - s' := by
  have hspaced := h.spaced hlength hstart
  refine List.Pairwise.forall_of_forall_of_flip
    (R := fun s s' => s = s' ∨ length ≤ s' - s ∨ length ≤ s - s') (fun _ _ => .inl rfl) ?_ ?_ hs hs'
  · exact hspaced.imp fun h => h.imp Eq.symm .inl
  · exact hspaced.imp fun h => h.imp_right .inr

/-- As long as a window has not lasted its length, the next one starts later. -/
theorem lt_of_start_mem (h : Course length ceiling now w counted starts)
    (hlasts : Timestamp.since now w.start < length) (hs : s ∈ starts) :
    s = w.start ∨ now < s := by
  induction h with
  | done => exact .inl (List.mem_singleton.mp hs)
  | idle _ ih => exact (List.mem_cons.mp hs).elim .inl (ih hlasts)
  | @refused now now' w w' _ _ later step _ ih | @admitted now now' w w' _ _ later step _ ih =>
    rcases List.mem_cons.mp hs with rfl | hs
    · exact .inl rfl
    have hnext := ih (step.lasts hlength) hs
    rcases step.cases with ⟨-, hsame, -⟩ | ⟨hlasted, hnew, -⟩
    · rw [hsame] at hnext
      exact hnext.imp_right (Int.lt_of_le_of_lt later)
    · have hne : now ≠ now' := by
        rintro rfl
        exact Int.not_le.mpr hlasts hlasted
      rw [hnew] at hnext
      omega

/-- No admission is counted in a window before the current one. -/
theorem not_lt_start (h : Course length ceiling now w counted starts) (hstart : w.start ≤ now)
    {x : Int × Int} (hx : x ∈ counted) : ¬x.2 < w.start := by
  have hplaced := h.start_of_mem hlength hstart (h.falls hstart hx).1
  omega

/-- An admission falls before any window that starts after its own. -/
theorem lt_of_start_lt (h : Course length ceiling now w counted starts) (hstart : w.start ≤ now)
    {x : Int × Int} (hx : x ∈ counted) (hs : s ∈ starts) (hlt : x.2 < s) : x.1 < s := by
  have hfirst := h.not_lt_start hlength hstart hx
  induction h with
  | done => cases hx
  | idle rest ih =>
    rcases List.mem_cons.mp hs with rfl | hs
    · exact absurd hlt hfirst
    · exact ih hstart hx hs hfirst
  | refused later step rest ih =>
    have hstart' := step.start_le (Int.le_trans hstart later)
    rcases List.mem_cons.mp hs with rfl | hs
    · exact absurd hlt hfirst
    · exact ih hstart' hx hs (rest.not_lt_start hlength hstart' hx)
  | admitted later step rest ih =>
    have hstart' := step.start_le (Int.le_trans hstart later)
    rcases List.mem_cons.mp hs with rfl | hs
    · exact absurd hlt hfirst
    rcases List.mem_cons.mp hx with rfl | hx
    · exact (rest.lt_of_start_mem hlength (step.lasts hlength) hs).resolve_left (Int.ne_of_gt hlt)
    · exact ih hstart' hx hs (rest.not_lt_start hlength hstart' hx)

/-- Nothing is counted any more in a window that has lasted its length. -/
theorem countP_past (h : Course length ceiling now w counted starts) (hstart : w.start ≤ now)
    (hs : s < w.start) : counted.countP (fun x => x.2 = s) = 0 := by
  rw [List.countP_eq_zero]
  intro x hx heq
  have hfirst := h.not_lt_start hlength hstart hx
  rw [of_decide_eq_true heq] at hfirst
  exact hfirst hs

/-- The current window counts no more than it has room for still. -/
theorem countP_current_le (h : Course length ceiling now w counted starts)
    (hstart : w.start ≤ now) :
    counted.countP (fun x => x.2 = w.start) ≤ ceiling - w.count := by
  induction h with
  | done => exact Nat.zero_le _
  | idle _ ih => exact ih hstart
  | refused later step rest ih =>
    have hbefore := Int.le_trans hstart later
    have hstart' := step.start_le hbefore
    rcases step.cases with ⟨-, hsame, hcount, -⟩ | ⟨hlasted, hnew, -⟩
    · have hrest := ih hstart'
      rwa [hsame, hcount] at hrest
    · have hapart := hlasted.trans (Timestamp.since_le hbefore)
      rw [rest.countP_past hlength hstart' (by rw [hnew]; omega)]
      exact Nat.zero_le _
  | @admitted now now' w w' counted starts later step rest ih =>
    have hbefore := Int.le_trans hstart later
    have hstart' := step.start_le hbefore
    rcases step.cases with ⟨-, hsame, hcount, hroom⟩ | ⟨hlasted, hnew, -⟩
    · have hrest := ih hstart'
      rw [hsame, hcount, if_pos rfl] at hrest
      rw [hsame, List.countP_cons, if_pos (by exact decide_eq_true rfl)]
      have := hroom rfl
      omega
    · have hlt : w.start < w'.start := by
        rw [hnew]
        exact Int.sub_pos.mp
          (Int.lt_of_lt_of_le hlength (hlasted.trans (Timestamp.since_le hbefore)))
      rw [List.countP_cons, rest.countP_past hlength hstart' hlt, if_neg]
      · exact Nat.zero_le _
      · simpa using Int.ne_of_gt hlt

/-- No window counts more than the ceiling. -/
theorem countP_start_le (h : Course length ceiling now w counted starts) (hstart : w.start ≤ now)
    (s : Int) : counted.countP (fun x => x.2 = s) ≤ ceiling := by
  induction h with
  | done => exact Nat.zero_le _
  | idle _ ih => exact ih hstart
  | refused later step _ ih => exact ih (step.start_le (Int.le_trans hstart later))
  | @admitted now now' w w' counted starts later step rest ih =>
    have hstart' := step.start_le (Int.le_trans hstart later)
    rw [List.countP_cons]
    split
    next hs =>
      have hroom : 0 < w'.count ∧ 0 < ceiling := by
        rcases step.cases with ⟨-, -, hcount, hroom⟩ | ⟨-, -, hcount, hroom⟩ <;>
        · have := hroom rfl
          rw [if_pos rfl] at hcount
          omega
      have hrest := rest.countP_current_le hlength hstart'
      rw [show w'.start = s from of_decide_eq_true hs] at hrest
      omega
    next => exact ih hstart'

/-- Admissions that all fall in one window are no more than the ceiling. -/
theorem countP_le_of_agree (h : Course length ceiling now w counted starts)
    (hstart : w.start ≤ now) {p : Int × Int → Bool}
    (hagree : ∀ x ∈ counted, ∀ y ∈ counted, p x → p y → x.2 = y.2) :
    counted.countP p ≤ ceiling := by
  rcases Nat.eq_zero_or_pos (counted.countP p) with hzero | hpos
  · omega
  · obtain ⟨y, hy, hpy⟩ := List.countP_pos_iff.mp hpos
    calc counted.countP p
        ≤ counted.countP (fun x => x.2 = y.2) :=
          List.countP_mono_left fun x hx hpx => decide_eq_true (hagree x hx y hy hpx hpy)
      _ ≤ ceiling := h.countP_start_le hlength hstart y.2

/-- A course keeps its admissions within the ceiling. -/
theorem within (h : Course length ceiling now w counted starts) (hstart : w.start ≤ now) :
    WithinQuota ceiling length starts (counted.map (·.1)) := by
  constructor
  case interval =>
    intro a
    rw [List.countP_map, List.countP_eq_countP_filter_add _ _ fun x => x.2 < a,
      List.countP_filter, List.countP_filter, Nat.two_mul]
    -- Windows that start before the stretch, and windows that start in it.
    refine Nat.add_le_add (h.countP_le_of_agree hlength hstart ?_)
      (h.countP_le_of_agree hlength hstart ?_)
    all_goals
      intro x hx y hy hpx hpy
      obtain ⟨hxplaced, hxle⟩ := h.falls hstart hx
      obtain ⟨hyplaced, hyle⟩ := h.falls hstart hy
      have hspaced := h.eq_or_apart hlength hstart hxplaced hyplaced
      have hxnext := h.lt_of_start_lt hlength hstart hx hyplaced
      have hynext := h.lt_of_start_lt hlength hstart hy hxplaced
      simp at hpx hpy
      omega
  case window =>
    intro s hs u hnext
    rw [List.countP_map]
    refine h.countP_le_of_agree hlength hstart ?_
    have hin {x : Int × Int} (hx : x ∈ counted) (hsx : s ≤ x.1) (hxu : x.1 < u) : x.2 = s := by
      obtain ⟨hplaced, hle⟩ := h.falls hstart hx
      have hbefore := h.lt_of_start_lt hlength hstart hx hs
      have hbetween := hnext x.2 hplaced
      omega
    intro x hx y hy hpx hpy
    simp at hpx hpy
    rw [hin hx hpx.1 hpx.2, hin hy hpy.1 hpy.2]

end

end Course

end Window

namespace Limiter

/-! ## Runs of a limiter -/

/-- What can be done to a limiter whose settings stay. -/
inductive Step where
  | check (d : Direction) (c : ClientId) (requested : Option Nat) (now : Timestamp)
  | remove (c : ClientId)
  deriving DecidableEq

/-- A message that was let pass. -/
structure Admission where
  direction : Direction
  client : ClientId
  time : Timestamp
  deriving DecidableEq

namespace Step

/-- The limiter after a step. -/
def perform (l : Limiter) : Step → Limiter
  | check d c requested now => (l.check d c requested now).1
  | remove c => l.removeClient c

/-- The message that a step lets pass. -/
def admission? (l : Limiter) : Step → Option Admission
  | check d c requested now =>
    if (l.check d c requested now).2.isAllowed then some ⟨d, c, now⟩ else none
  | remove _ => none

/-- The time of a check. -/
def time? : Step → Option Timestamp
  | check _ _ _ now => some now
  | remove _ => none

end Step

/-- Performs steps one after the other. -/
def run (l : Limiter) (steps : List Step) : Limiter := steps.foldl Step.perform l

/-- The limiter before the first step and after each. -/
def states (l : Limiter) : List Step → List Limiter
  | [] => [l]
  | step :: steps => l :: states (step.perform l) steps

/-- The messages that steps let pass. -/
def admissions (l : Limiter) : List Step → List Admission
  | [] => []
  | step :: steps => (step.admission? l).toList ++ admissions (step.perform l) steps

/-- No check takes place before a time, nor before an earlier check. -/
def Timely (now : Timestamp) (steps : List Step) : Prop :=
  (now :: steps.filterMap Step.time?).Pairwise (· ≤ ·)

instance (now : Timestamp) (steps : List Step) : Decidable (Timely now steps) :=
  inferInstanceAs (Decidable (List.Pairwise _ _))

/-- How many messages a frequency allows in a window, in exact arithmetic. -/
def quota (frequency : Nat) (window : Span) : Nat :=
  max 1 ⌈((frequency * window.ms : Nat) : ℚ) / 1000⌉₊

variable {l l' : Limiter} {d : Direction} {c : ClientId} {requested : Option Nat}
  {now now' : Timestamp} {step : Step} {steps before rest : List Step}

theorem ceiling_eq_quota (l : Limiter) (frequency : Nat) :
    l.ceiling frequency = quota frequency l.window := by
  unfold ceiling quota
  congr 1
  refine eq_of_forall_ge_iff fun n => ?_
  rw [Nat.ceil_le, div_le_iff₀ (by norm_num)]
  norm_cast
  omega

theorem ceiling_mono (l : Limiter) {f g : Nat} (h : f ≤ g) : l.ceiling f ≤ l.ceiling g := by
  have := Nat.mul_le_mul_right l.window.ms h
  unfold ceiling
  omega

/-- A client can only lower its own limit. -/
theorem frequencyFor_le (hlimit : (l.settings.get d).client ≠ 0) (requested : Option Nat) :
    l.frequencyFor d requested ≠ 0 ∧ l.frequencyFor d requested ≤ (l.settings.get d).client := by
  unfold frequencyFor clientFrequency
  split
  next hzero _ => exact absurd hzero hlimit
  next _ r _ hr _ =>
    have hpos := of_decide_eq_true (Option.filter_eq_some_iff.mp hr).2
    omega
  next => exact ⟨hlimit, Nat.le_refl _⟩

@[simp] theorem settings_perform (l : Limiter) (step : Step) :
    (step.perform l).settings = l.settings := by
  cases step with
  | check d c requested now => exact (checked_check l d c requested now).settings
  | remove c => rfl

@[simp] theorem window_perform (l : Limiter) (step : Step) :
    (step.perform l).window = l.window := by
  cases step with
  | check d c requested now => exact (checked_check l d c requested now).window
  | remove c => rfl

/-! ## What a step does to a counter -/

/-- How a step goes with a counter that counts some of the admissions: it asks the counter,
or it leaves it as it is and admits nothing that it counts. -/
inductive Step.Meters (view : Limiter → Window) (counts : Admission → Bool) (length : Int)
    (ceiling : Nat) (l : Limiter) (step : Step) : Prop
  | idle (same : view (step.perform l) = view l)
      (nothing : (step.admission? l).filter counts = none)
  | refused (now : Timestamp) (time : step.time? = some now)
      (asked : Window.Asked length ceiling now false (view l) (view (step.perform l)))
      (nothing : (step.admission? l).filter counts = none)
  | admitted (a : Admission) (time : step.time? = some a.time)
      (asked : Window.Asked length ceiling a.time true (view l) (view (step.perform l)))
      (counted : (step.admission? l).filter counts = some a)

theorem Timely.tail (h : Timely now (step :: rest)) : Timely now rest := by
  unfold Timely at h ⊢
  rw [List.pairwise_cons] at h ⊢
  cases ht : step.time? with
  | none =>
    rw [List.filterMap_cons_none ht] at h
    exact h
  | some t =>
    rw [List.filterMap_cons_some ht] at h
    exact ⟨fun t' ht' => h.1 t' (List.mem_cons_of_mem _ ht'), (List.pairwise_cons.mp h.2).2⟩

theorem Timely.later (h : Timely now (step :: rest)) (ht : step.time? = some now') :
    now ≤ now' ∧ Timely now' rest := by
  unfold Timely at h ⊢
  rw [List.filterMap_cons_some ht, List.pairwise_cons] at h
  exact ⟨h.1 now' List.mem_cons_self, h.2⟩

/-- A run takes a counter through a course. -/
theorem exists_course (view : Limiter → Window) (counts : Admission → Bool) {length : Int}
    {ceiling : Nat} (htimely : Timely now steps)
    (hmeters : ∀ l' : Limiter, l'.settings = l.settings → l'.window = l.window →
      ∀ step ∈ steps, step.Meters view counts length ceiling l') :
    ∃ counted, counted.map (·.1) = ((l.admissions steps).filter counts).map (·.time) ∧
      Window.Course length ceiling now (view l) counted
        ((l.states steps).map fun l => (view l).start) := by
  induction steps generalizing l now with
  | nil => exact ⟨[], rfl, .done⟩
  | cons step rest ih =>
    have hrest {now : Timestamp} (htimely : Timely now rest) :=
      ih (l := step.perform l) htimely fun l' hsettings hwindow other hother =>
        hmeters l' (hsettings.trans (settings_perform l step))
          (hwindow.trans (window_perform l step)) other (List.mem_cons_of_mem _ hother)
    have hcounted : ((l.admissions (step :: rest)).filter counts).map (·.time) =
        ((step.admission? l).filter counts).toList.map (·.time) ++
          (((step.perform l).admissions rest).filter counts).map (·.time) := by
      rw [admissions, List.filter_append, List.map_append, Option.toList_filter]
    rw [hcounted]
    rcases hmeters l rfl rfl step List.mem_cons_self with
      ⟨hsame, hnothing⟩ | ⟨time, ht, hasked, hnothing⟩ | ⟨a, ht, hasked, hone⟩
    · obtain ⟨counted, htimes, hcourse⟩ := hrest htimely.tail
      rw [hsame] at hcourse
      exact ⟨counted, by rw [hnothing]; exact htimes, .idle hcourse⟩
    · obtain ⟨hle, hlater⟩ := htimely.later ht
      obtain ⟨counted, htimes, hcourse⟩ := hrest hlater
      exact ⟨counted, by rw [hnothing]; exact htimes, .refused hle hasked hcourse⟩
    · obtain ⟨hle, hlater⟩ := htimely.later ht
      obtain ⟨counted, htimes, hcourse⟩ := hrest hlater
      exact ⟨_, by rw [hone, List.map_cons, htimes]; rfl, .admitted hle hasked hcourse⟩

theorem admission?_of_refused (h : (l.check d c requested now).2.isAllowed = false) :
    (Step.check d c requested now).admission? l = none := if_neg (ne_true_of_eq_false h)

theorem admission?_of_allowed (h : (l.check d c requested now).2.isAllowed = true) :
    (Step.check d c requested now).admission? l = some ⟨d, c, now⟩ := if_pos h

/-- An admission is counted by the counters that are asked. -/
theorem filter_admission?_of_not {counts : Admission → Bool} (h : counts ⟨d, c, now⟩ = false) :
    ((Step.check d c requested now).admission? l).filter counts = none := by
  cases hallowed : (l.check d c requested now).2.isAllowed with
  | false => rw [admission?_of_refused hallowed, Option.filter_none]
  | true => rw [admission?_of_allowed hallowed, Option.filter_some_neg h]

theorem meters_of_asked {view : Limiter → Window} {counts : Admission → Bool} {ceiling : Nat}
    (hcounts : counts ⟨d, c, now⟩ = true)
    (hasked : Window.Asked l.windowLength ceiling now (l.check d c requested now).2.isAllowed
      (view l) (view (l.check d c requested now).1)) :
    (Step.check d c requested now).Meters view counts l.windowLength ceiling l := by
  cases hallowed : (l.check d c requested now).2.isAllowed with
  | false =>
    rw [hallowed] at hasked
    exact .refused now rfl hasked (by rw [admission?_of_refused hallowed, Option.filter_none])
  | true =>
    rw [hallowed] at hasked
    refine .admitted ⟨d, c, now⟩ rfl hasked ?_
    rw [admission?_of_allowed hallowed, Option.filter_some_pos hcounts]

/-- Checks ask the counter of a destination that has a limit. -/
theorem meters_destination (hall : l.CountsAll d) (step : Step) :
    step.Meters (fun l => l.destination.get d) (fun a => a.direction = d) l.windowLength
      (l.ceiling (l.settings.get d).destination) l := by
  cases step with
  | remove c => exact .idle rfl rfl
  | check e c requested now =>
    have hchecked := checked_check l e c requested now
    by_cases he : e = d
    · subst he
      exact meters_of_asked (decide_eq_true rfl) (hchecked.destination hall)
    · exact .idle (hchecked.destination_of_ne d (Ne.symm he))
        (filter_admission?_of_not (decide_eq_false he))

/-- Checks ask the counter of a client that has a limit, until it is removed. -/
theorem meters_client (hpolicy : (l.settings.get d).policy ≠ .none)
    (hlimit : (l.settings.get d).client ≠ 0) (hkept : step ≠ .remove c) :
    step.Meters (fun l => l.windowOf c d) (fun a => a.direction = d ∧ a.client = c)
      l.windowLength (l.ceiling (l.settings.get d).client) l := by
  cases step with
  | remove x =>
    have hne : x ≠ c := fun heq => hkept (congrArg Step.remove heq)
    exact .idle ((l.windowOf_removeClient x c d).trans (if_neg hne)) rfl
  | check e x requested now =>
    have hchecked := checked_check l e x requested now
    by_cases hsame : e = d ∧ x = c
    · obtain ⟨rfl, rfl⟩ := hsame
      obtain ⟨hlimited, hle⟩ := frequencyFor_le hlimit requested
      rcases hchecked.windowOf ⟨hpolicy, hlimited⟩ with hasked | ⟨hrefused, heq⟩
      · exact meters_of_asked (decide_eq_true ⟨rfl, rfl⟩) (hasked.mono (l.ceiling_mono hle))
      · refine .idle heq ?_
        show ((Step.check e x requested now).admission? l).filter _ = none
        rw [admission?_of_refused hrefused, Option.filter_none]
    · exact .idle (hchecked.windowOf_of_ne c d fun h => hsame ⟨h.2, h.1⟩)
        (filter_admission?_of_not (decide_eq_false hsame))

/-! ## Where a run begins -/

/-- No window of a limiter starts after a time. -/
structure Begun (l : Limiter) (now : Timestamp) : Prop where
  time : (0 : Int) ≤ now
  destination : ∀ d, (l.destination.get d).start ≤ now
  client : ∀ c d, (l.windowOf c d).start ≤ now

theorem create_eq_ok {settings : ThrottleSettings} {window : Span}
    (h : create settings window = .ok l) :
    l = ⟨window, settings, .fresh, ∅, ⟨.none, .none⟩⟩ := by
  unfold create at h
  cases hvalid : settings.validate with
  | error e =>
    rw [hvalid] at h
    cases h
  | ok =>
    rw [hvalid] at h
    exact (Except.ok.inj h).symm

theorem begun_create {settings : ThrottleSettings} {window : Span}
    (h : create settings window = .ok l) : l.Begun 0 := by
  rw [create_eq_ok h]
  constructor
  case time => exact Int.le_refl 0
  case destination =>
    intro d
    cases d <;> exact Int.le_refl 0
  case client =>
    intro c d
    cases d <;> exact Int.le_refl 0

theorem Begun.check (h : l.Begun now) (hle : now ≤ now') :
    (l.check d c requested now').1.Begun now' := by
  have hchecked := checked_check l d c requested now'
  constructor
  case time => exact Int.le_trans h.time hle
  case destination =>
    intro e
    have hbefore := Int.le_trans (h.destination e) hle
    by_cases he : e = d
    · subst he
      by_cases hall : l.CountsAll e
      · exact (hchecked.destination hall).start_le hbefore
      · rw [hchecked.destination_of_not hall]
        exact hbefore
    · rw [hchecked.destination_of_ne e he]
      exact hbefore
  case client =>
    intro x e
    have hbefore := Int.le_trans (h.client x e) hle
    by_cases hsame : c = x ∧ d = e
    · obtain ⟨rfl, rfl⟩ := hsame
      by_cases heach : l.CountsEach d requested
      · rcases hchecked.windowOf heach with hasked | ⟨-, heq⟩
        · exact hasked.start_le hbefore
        · rw [heq]
          exact hbefore
      · rw [hchecked.windowOf_of_not heach]
        exact hbefore
    · rw [hchecked.windowOf_of_ne x e hsame]
      exact hbefore

theorem Begun.removeClient (h : l.Begun now) : (l.removeClient c).Begun now where
  time := h.time
  destination := h.destination
  client x d := by
    rw [windowOf_removeClient]
    split
    · exact h.time
    · exact h.client x d

theorem Begun.run (h : l.Begun now) (htimely : Timely now (before ++ rest)) :
    ∃ now', (l.run before).Begun now' ∧ Timely now' rest := by
  induction before generalizing l now with
  | nil => exact ⟨now, h, htimely⟩
  | cons step before ih =>
    cases step with
    | check d c requested now' =>
      obtain ⟨hle, hlater⟩ := htimely.later rfl
      exact ih (h.check hle) hlater
    | remove c => exact ih h.removeClient htimely.tail

@[simp] theorem settings_run (l : Limiter) (steps : List Step) :
    (l.run steps).settings = l.settings := by
  induction steps generalizing l with
  | nil => rfl
  | cons step steps ih => exact (ih (step.perform l)).trans (settings_perform l step)

@[simp] theorem window_run (l : Limiter) (steps : List Step) :
    (l.run steps).window = l.window := by
  induction steps generalizing l with
  | nil => rfl
  | cons step steps ih => exact (ih (step.perform l)).trans (window_perform l step)

theorem windowLength_eq (hlt : l.window.ms < 2 ^ 63) : l.windowLength = l.window.ms :=
  l.window.signedMs_of_lt (by omega)

/-- A run lets pass no more than the quota of a counter that all its steps go by. -/
theorem withinQuota_of_meters (view : Limiter → Window) (counts : Admission → Bool)
    {frequency : Nat} (hpos : 1 ≤ l.window.ms) (hlt : l.window.ms < 2 ^ 63)
    (hstart : (view l).start ≤ now) (htimely : Timely now steps)
    (hmeters : ∀ l' : Limiter, l'.settings = l.settings → ∀ step ∈ steps,
      step.Meters view counts l'.windowLength (l'.ceiling frequency) l') :
    WithinQuota (quota frequency l.window) l.window.ms
      ((l.states steps).map fun l => (view l).start)
      (((l.admissions steps).filter counts).map (·.time)) := by
  obtain ⟨counted, htimes, hcourse⟩ := exists_course (l := l) view counts htimely
    fun l' hsettings hwindow step hstep => by
      have hstepped := hmeters l' hsettings step hstep
      rw [windowLength, ceiling, hwindow] at hstepped
      exact hstepped
  have hlength := windowLength_eq hlt
  rw [← htimes, ← ceiling_eq_quota, ← hlength]
  exact hcourse.within (by omega) hstart

/-- Whatever a limiter that was just made is asked, in a direction whose policy limits
something: any stretch of time as long as a window has at most twice as many admissions as the
limit of the destination allows in one window, and from one start of a window to the next there
are no more than it allows. The same holds of the admissions of a client and the limit for
clients, over any part of the run in which the client is not removed. -/
theorem admissions_withinQuota {settings : ThrottleSettings} {window : Span}
    (hl : create settings window = .ok l) (hpos : 1 ≤ window.ms) (hlt : window.ms < 2 ^ 63)
    (htimely : Timely 0 steps) (hpolicy : (settings.get d).policy ≠ .none) :
    ((settings.get d).destination ≠ 0 →
      WithinQuota (quota (settings.get d).destination window) window.ms
        ((l.states steps).map fun l => (l.destination.get d).start)
        (((l.admissions steps).filter fun a => a.direction = d).map (·.time))) ∧
    ((settings.get d).client ≠ 0 → ∀ c before stretch after,
      steps = before ++ stretch ++ after → .remove c ∉ stretch →
      WithinQuota (quota (settings.get d).client window) window.ms
        (((l.run before).states stretch).map fun l => (l.windowOf c d).start)
        ((((l.run before).admissions stretch).filter fun a => a.direction = d ∧ a.client = c).map
          (·.time))) := by
  have hbegun := begun_create hl
  obtain ⟨hwindow, hsettings⟩ : l.window = window ∧ l.settings = settings := by
    rw [create_eq_ok hl]
    exact ⟨rfl, rfl⟩
  subst hwindow hsettings
  constructor
  · intro hlimit
    refine withinQuota_of_meters (fun l => l.destination.get d) _ hpos hlt
      (hbegun.destination d) htimely fun l' hsettings step _ => ?_
    rw [← hsettings] at hpolicy hlimit ⊢
    exact meters_destination ⟨hpolicy, hlimit⟩ step
  · intro hlimit c before stretch after hsteps hkept
    rw [hsteps, List.append_assoc] at htimely
    obtain ⟨now, hbegun, htimely⟩ := hbegun.run htimely
    have hstretch : Timely now stretch := by
      unfold Timely at htimely ⊢
      rw [List.filterMap_append, ← List.cons_append] at htimely
      exact (List.pairwise_append.mp htimely).1
    rw [← window_run l before] at hpos hlt ⊢
    rw [← settings_run l before] at hpolicy hlimit ⊢
    refine withinQuota_of_meters (fun l => l.windowOf c d) _ hpos hlt
      (hbegun.client c d) hstretch fun l' hsettings step hstep => ?_
    rw [← hsettings] at hpolicy hlimit ⊢
    exact meters_client hpolicy hlimit fun heq => hkept (heq ▸ hstep)

/-- One message a second of each client, and two of all clients. -/
def oneEach : ThrottleSettings := ⟨⟨.ignore, 1, 2⟩, ⟨.none, 0, 0⟩⟩

/-- A client is refused, is forgotten, finds the destination full, and returns later. -/
def crowd : List Step :=
  [.check .inbound "ann" none 10, .check .inbound "ann" none 20, .check .inbound "bob" none 30,
   .remove "ann", .check .inbound "ann" none 40, .check .inbound "ann" (some 5) 1015]

theorem admissions_withinQuota_crowd :
    ∃ l, create oneEach ⟨1000⟩ = .ok l ∧ Timely 0 crowd ∧
      (l.admissions crowd).map (·.time) = [10, 30, 1015] ∧
      WithinQuota (quota 2 ⟨1000⟩) 1000 [0, 0, 0, 0, 0, 0, 1015] [10, 30, 1015] ∧
      WithinQuota (quota 1 ⟨1000⟩) 1000 [0, 0, 1015] [1015] := by
  have htimely : Timely 0 crowd := by decide
  have hcreated : create oneEach ⟨1000⟩ = .ok _ := rfl
  have hwithin := admissions_withinQuota (d := .inbound) hcreated (by decide) (by decide) htimely
    (by decide)
  exact ⟨_, rfl, htimely, rfl, hwithin.1 (by decide),
    hwithin.2 (by decide) "ann" (crowd.take 4) (crowd.drop 4) [] (by decide) (by decide)⟩

end Limiter

end MessageBroker
