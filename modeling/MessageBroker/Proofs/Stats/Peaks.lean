/-
# Peaks

The peak of a gauge is meant to be the highest value it has had since it was made or reset. Each
way of changing the value sees to the peak by itself, but one: lowering leaves it alone. That is
right as long as lowering lowers. A negative amount raises the value, and so does the lower bound
of zero when the value is negative, and then the peak may be left behind until the next change
that looks at it, or until the gauge is copied or written down and read again.

So the peak is exactly the highest of the values that were noted, which are all but those after
a lowering. It is the highest of all, and a copy is the same, for just as long as no lowering
goes above it.
-/

import Mathlib.Data.Int.Order.Basic
import Mathlib.Order.Bounds.Basic
import Mathlib.Order.MinMax
import MessageBroker.Proofs.Document.Records
import MessageBroker.Stats.Gauge

namespace MessageBroker

namespace Gauge

/-- A number that a signed word of 64 bits holds. -/
def InWord (n : Int) : Prop := -0x8000000000000000 ≤ n ∧ n < 0x8000000000000000

instance (n : Int) : Decidable (InWord n) := inferInstanceAs (Decidable (_ ∧ _))

/-- Something that is done to a gauge. -/
inductive Step where
  | inc
  | add (n : Int)
  | dec
  | sub (n : Int)
  | set (n : Int)
  | reset
  /-- A copy takes its place. -/
  | copy
  /-- It is written down, and what is read again takes its place. -/
  | reread
  deriving DecidableEq, Repr

namespace Step

/-- Does a step. Reading can fail. -/
def take : Step → Gauge → Read.Result Gauge
  | .inc, g => .ok g.inc
  | .add n, g => .ok (g.add n)
  | .dec, g => .ok g.dec
  | .sub n, g => .ok (g.sub n)
  | .set n, g => .ok (g.set n)
  | .reset, g => .ok g.reset
  | .copy, g => .ok g.copy
  | .reread, g => ofDocument g.toDocument

/-- The amount that a step means to lower the value by. -/
def lowering? : Step → Option Int
  | .dec => some 1
  | .sub n => some n
  | _ => none

/-- The numbers that a step is given or works out fit a word. -/
def Fits (g : Gauge) : Step → Prop
  | .inc => InWord (g.count + 1)
  | .add n => InWord n ∧ InWord (g.count + n)
  | .dec => InWord (g.count - 1)
  | .sub n => InWord n ∧ InWord (g.count - n)
  | .set n => InWord n
  | _ => True

instance decidableFits (g : Gauge) : ∀ s : Step, Decidable (s.Fits g)
  | .inc => inferInstanceAs (Decidable (InWord (g.count + 1)))
  | .add n => inferInstanceAs (Decidable (InWord n ∧ InWord (g.count + n)))
  | .dec => inferInstanceAs (Decidable (InWord (g.count - 1)))
  | .sub n => inferInstanceAs (Decidable (InWord n ∧ InWord (g.count - n)))
  | .set n => inferInstanceAs (Decidable (InWord n))
  | .reset | .copy | .reread => isTrue trivial

/-- A lowering goes above the peak. -/
def Overshoots (g : Gauge) (s : Step) : Prop :=
  ∃ n, s.lowering? = some n ∧ g.max < (g.sub n).count

end Step

/-- Something holds of every step and the gauge that it is done to. -/
def Throughout (p : Gauge → Step → Prop) : Gauge → List Step → Prop
  | _, [] => True
  | g, s :: rest => p g s ∧ ∀ g', s.take g = .ok g' → Throughout p g' rest

instance decidableThroughout (p : Gauge → Step → Prop) [∀ g s, Decidable (p g s)] :
    ∀ g steps, Decidable (Throughout p g steps)
  | _, [] => isTrue trivial
  | g, s :: rest =>
    match htake : s.take g with
    | .ok g' =>
      have := decidableThroughout p g' rest
      decidable_of_iff (p g s ∧ Throughout p g' rest) (by simp [Throughout, htake])
    | .error _ => decidable_of_iff (p g s) (by simp [Throughout, htake])

/-- A gauge with the values that it has had. -/
structure Watched where
  gauge : Gauge
  /-- All values since it was made or reset, and the peak that it was given. -/
  seen : Set Int
  /-- Those of them that did not come from a lowering. -/
  noted : Set Int

namespace Watched

/-- A gauge that is made with a value and a peak. -/
def begin (count peak : Int) : Watched := ⟨ofCount count peak, {peak, count}, {peak, count}⟩

/-- Does a step. -/
def take (w : Watched) (s : Step) : Read.Result Watched := do
  let g ← s.take w.gauge
  if s = .reset then return ⟨g, {0}, {0}⟩
  else
    let noted := if s.lowering?.isSome then w.noted else insert g.count w.noted
    return ⟨g, insert g.count w.seen, noted⟩

/-- Does steps one after the other. -/
def run (w : Watched) (steps : List Step) : Read.Result Watched := steps.foldlM take w

/-- The peak is the highest value seen, and a copy is the same gauge, as is what is read from
what was written down. -/
structure Truthful (w : Watched) : Prop where
  peak : IsGreatest w.seen w.gauge.max
  count_le : w.gauge.count ≤ w.gauge.max
  copy : w.gauge.copy = w.gauge
  reread : ofDocument w.gauge.toDocument = .ok w.gauge

end Watched

/-! ## One step -/

variable {g g' : Gauge} {s : Step} {w w' : Watched} {n : Int}

theorem int64_int (h : InWord n) : Read.int64 (.int n) = .ok n := if_pos h

/-- What is read from what was written down is a copy. -/
theorem ofDocument_toDocument (hcount : InWord g.count) (hmax : InWord g.max) :
    ofDocument g.toDocument = .ok g.copy := by
  have hread : Read.record .strict fields (none, none) g.toDocument =
      .ok (some g.count, some g.max) := by
    have hparts : Read.record .strict fields (none, none) _ = _ := Read.record_of_parts (by decide)
      (none, none)
      [(⟨"count", fun d g => do return (some (← Read.int64 d), g.2)⟩, .int g.count),
        (⟨"max", fun d g => do return (g.1, some (← Read.int64 d))⟩, .int g.max)]
      (by simp [fields])
    refine Eq.trans hparts ?_
    rw [Read.foldlM_parts_cons (int64_int hcount) "count" fun g n => (some n, g.2),
      Read.foldlM_parts_cons (int64_int hmax) "max" fun g n => (g.1, some n)]
    rfl
  rw [ofDocument, hread]
  rfl

theorem copy_eq_iff : g.copy = g ↔ g.count ≤ g.max := by
  obtain ⟨count, peak⟩ := g
  rw [copy, ofCount, mk.injEq, and_iff_right rfl]
  exact sup_eq_left

/-- What steps do: they lower the value, begin anew, or give it a value that the peak is compared
with. -/
inductive Changes (g : Gauge) (s : Step) (g' : Gauge) : Prop
  | lowers (n : Int) (hlowering : s.lowering? = some n) (heq : g' = g.sub n)
  | resets (hreset : s = .reset) (heq : g' = g.reset)
  | sets (n : Int) (hfits : InWord n) (hraises : s.lowering? = none) (hreset : s ≠ .reset)
      (heq : g' = g.set n)

/-- As long as nothing overflows, each step succeeds. -/
theorem exists_changes (hcount : InWord g.count) (hmax : InWord g.max) (hfits : s.Fits g) :
    ∃ g', s.take g = .ok g' ∧ Changes g s g' := by
  cases s with
  | inc => exact ⟨_, rfl, .sets _ hfits rfl nofun rfl⟩
  | add n => exact ⟨_, rfl, .sets _ hfits.2 rfl nofun rfl⟩
  | dec => exact ⟨_, rfl, .lowers 1 rfl rfl⟩
  | sub n => exact ⟨_, rfl, .lowers n rfl rfl⟩
  | set n => exact ⟨_, rfl, .sets n hfits rfl nofun rfl⟩
  | reset => exact ⟨_, rfl, .resets rfl rfl⟩
  | copy => exact ⟨_, rfl, .sets g.count hcount rfl nofun rfl⟩
  | reread =>
    exact ⟨_, ofDocument_toDocument hcount hmax, .sets g.count hcount rfl nofun rfl⟩

theorem inWord_zero : InWord 0 := by decide

theorem inWord_max {m : Int} (hm : InWord m) (hn : InWord n) : InWord (Max.max m n) := by
  rcases max_choice m n with heq | heq <;> rw [heq] <;> assumption

theorem inWord_lowered (hfits : s.Fits g) (hlowering : s.lowering? = some n) :
    InWord (g.sub n).count := by
  have hdifference : InWord (g.count - n) := by
    cases s <;> cases hlowering
    · exact hfits
    · exact hfits.2
  exact inWord_max hdifference inWord_zero

/-- An amount that is not negative does not raise the value, unless to zero. -/
theorem count_sub_le (hle : g.count ≤ g.max) (hmax : 0 ≤ g.max) (hn : 0 ≤ n) :
    (g.sub n).count ≤ g.max :=
  max_le ((Int.sub_le_self g.count hn).trans hle) hmax

theorem Changes.bounds (h : Changes g s g') (hle : g.count ≤ g.max) (hmax : 0 ≤ g.max)
    (hamount : ∀ n, s.lowering? = some n → 0 ≤ n) : g'.count ≤ g'.max ∧ 0 ≤ g'.max := by
  cases h with
  | lowers n hlowering heq =>
    subst heq
    exact ⟨count_sub_le hle hmax (hamount n hlowering), hmax⟩
  | resets hreset heq =>
    subst heq
    exact ⟨le_rfl, le_rfl⟩
  | sets n hfits hraises hreset heq =>
    subst heq
    exact ⟨le_max_right _ _, le_max_of_le_left hmax⟩

namespace Watched

/-- The peak is the highest value noted. -/
structure Tallies (w : Watched) : Prop where
  count : InWord w.gauge.count
  max : InWord w.gauge.max
  peak : IsGreatest w.noted w.gauge.max
  noted : w.noted ⊆ w.seen
  current : w.gauge.count ∈ w.seen

theorem tallies_begin {count peak : Int} (hcount : InWord count) (hpeak : InWord peak) :
    (begin count peak).Tallies where
  count := hcount
  max := inWord_max hpeak hcount
  peak := isGreatest_pair
  noted := subset_rfl
  current := Set.mem_insert_of_mem peak rfl

/-- Whether the gauge tells the truth is a matter of the values that were not noted. -/
theorem Tallies.truthful_iff (h : w.Tallies) : w.Truthful ↔ ∀ v ∈ w.seen, v ≤ w.gauge.max := by
  constructor
  · intro htruthful v hv
    exact htruthful.peak.2 hv
  · intro hall
    have hle := hall _ h.current
    have hcopy := copy_eq_iff.mpr hle
    refine ⟨⟨h.noted h.peak.1, fun v hv => hall v hv⟩, hle, hcopy, ?_⟩
    rw [ofDocument_toDocument h.count h.max, hcopy]

theorem take_of_take (h : s.take w.gauge = .ok g) (hreset : s ≠ .reset) :
    w.take s = .ok ⟨g, insert g.count w.seen,
      if s.lowering?.isSome then w.noted else insert g.count w.noted⟩ := by
  rw [take, h]
  exact if_neg hreset

/-- A step keeps the peak the highest value noted, and a gauge that told the truth goes on to do
so unless the step overshoots. -/
theorem Tallies.take (h : w.Tallies) (hfits : s.Fits w.gauge) :
    ∃ w', w.take s = .ok w' ∧ s.take w.gauge = .ok w'.gauge ∧ w'.Tallies ∧
      (w.Truthful → (w'.Truthful ↔ ¬s.Overshoots w.gauge)) := by
  obtain ⟨g', htake, hchanges⟩ := exists_changes h.count h.max hfits
  cases hchanges with
  | lowers n hlowering heq =>
    subst heq
    have hafter := take_of_take htake (by rintro rfl; cases hlowering)
    rw [hlowering, Option.isSome_some, if_pos rfl] at hafter
    have htallies : Tallies ⟨w.gauge.sub n, insert (w.gauge.sub n).count w.seen, w.noted⟩ :=
      ⟨inWord_lowered hfits hlowering, h.max, h.peak,
        h.noted.trans (Set.subset_insert _ _), Set.mem_insert _ _⟩
    refine ⟨_, hafter, htake, htallies, fun htruthful => ?_⟩
    have hseen : ∀ v ∈ w.seen, v ≤ w.gauge.max := htruthful.peak.2
    refine htallies.truthful_iff.trans ?_
    rw [Set.forall_mem_insert, Step.Overshoots]
    simp only [hlowering, Option.some.injEq, exists_eq_left', not_lt]
    exact and_iff_left hseen
  | resets hreset heq =>
    subst hreset heq
    have htallies : Tallies ⟨w.gauge.reset, {0}, {0}⟩ :=
      ⟨inWord_zero, inWord_zero, isGreatest_singleton, subset_rfl, rfl⟩
    refine ⟨_, rfl, rfl, htallies, fun _ => iff_of_true ?_ ?_⟩
    · exact htallies.truthful_iff.mpr isGreatest_singleton.2
    · rintro ⟨n, hlowering, -⟩
      cases hlowering
  | sets n hnfits hraises hreset heq =>
    subst heq
    have hafter := take_of_take htake hreset
    rw [hraises, Option.isSome_none, if_neg Bool.false_ne_true] at hafter
    have hgreatest {values : Set Int} (hvalues : IsGreatest values w.gauge.max) :
        IsGreatest (insert n values) (w.gauge.set n).max := by
      rw [set, max_comm]
      exact hvalues.insert n
    have htallies : Tallies ⟨w.gauge.set n, insert n w.seen, insert n w.noted⟩ :=
      ⟨hnfits, inWord_max h.max hnfits, hgreatest h.peak, Set.insert_subset_insert h.noted,
        Set.mem_insert _ _⟩
    refine ⟨_, hafter, htake, htallies, fun htruthful => iff_of_true ?_ ?_⟩
    · exact htallies.truthful_iff.mpr (hgreatest htruthful.peak).2
    · rintro ⟨k, hlowering, -⟩
      rw [hraises] at hlowering
      cases hlowering

/-! ## Runs -/

theorem run_cons (s : Step) (steps : List Step) (w : Watched) :
    w.run (s :: steps) = (w.take s >>= fun w' => w'.run steps) := rfl

theorem Tallies.run {steps : List Step} (h : w.Tallies)
    (hfits : Throughout (fun g s => s.Fits g) w.gauge steps) :
    ∃ w', w.run steps = .ok w' ∧ w'.Tallies := by
  induction steps generalizing w with
  | nil => exact ⟨w, rfl, h⟩
  | cons s steps ih =>
    obtain ⟨w', hw', hgauge, htallies, -⟩ := h.take hfits.1
    obtain ⟨w'', hw'', htallies'⟩ := ih htallies (hfits.2 _ hgauge)
    refine ⟨w'', ?_, htallies'⟩
    rw [run_cons, hw']
    exact hw''

/-- The gauge tells the truth at every moment of some steps. -/
def IsTruthfulThroughout (w : Watched) (steps : List Step) : Prop :=
  ∀ earlier, earlier <+: steps → ∀ w', w.run earlier = .ok w' → w'.Truthful

theorem isTruthfulThroughout_cons (hw' : w.take s = .ok w') (steps : List Step) :
    w.IsTruthfulThroughout (s :: steps) ↔ w.Truthful ∧ w'.IsTruthfulThroughout steps := by
  constructor
  · intro h
    refine ⟨h [] (List.nil_prefix) w rfl, fun earlier hearlier v hv => ?_⟩
    refine h (s :: earlier) (List.cons_prefix_cons.mpr ⟨rfl, hearlier⟩) v ?_
    rw [run_cons, hw']
    exact hv
  · rintro ⟨hnow, hlater⟩ earlier hearlier v hv
    rcases List.prefix_cons_iff.mp hearlier with rfl | ⟨rest, rfl, hrest⟩
    · cases hv
      exact hnow
    · rw [run_cons, hw'] at hv
      exact hlater rest hrest v hv

theorem Tallies.isTruthfulThroughout_iff {steps : List Step} (h : w.Tallies) (hnow : w.Truthful)
    (hfits : Throughout (fun g s => s.Fits g) w.gauge steps) :
    w.IsTruthfulThroughout steps ↔ Throughout (fun g s => ¬s.Overshoots g) w.gauge steps := by
  induction steps generalizing w with
  | nil =>
    refine iff_of_true (fun earlier hearlier v hv => ?_) trivial
    rw [List.prefix_nil.mp hearlier] at hv
    cases hv
    exact hnow
  | cons s steps ih =>
    obtain ⟨w', hw', hgauge, htallies, hturn⟩ := h.take hfits.1
    have hlater : (∀ g', s.take w.gauge = .ok g' →
        Throughout (fun g s => ¬s.Overshoots g) g' steps) ↔
          Throughout (fun g s => ¬s.Overshoots g) w'.gauge steps := by
      rw [hgauge]
      exact ⟨fun hall => hall _ rfl, fun hone g' hg' => Except.ok.inj hg' ▸ hone⟩
    rw [isTruthfulThroughout_cons hw', and_iff_right hnow, Throughout, hlater]
    constructor
    · intro hall
      have hthen : w'.Truthful := hall [] List.nil_prefix w' rfl
      exact ⟨(hturn hnow).mp hthen, (ih htallies hthen (hfits.2 _ hgauge)).mp hall⟩
    · rintro ⟨hstep, hrest⟩
      have hthen := (hturn hnow).mpr hstep
      exact (ih htallies hthen (hfits.2 _ hgauge)).mpr hrest

/-- A gauge whose peak is not negative is not overshot by lowerings of amounts that are not. -/
theorem Tallies.not_overshoots {steps : List Step} (h : w.Tallies)
    (hle : w.gauge.count ≤ w.gauge.max) (hmax : 0 ≤ w.gauge.max)
    (hfits : Throughout (fun g s => s.Fits g) w.gauge steps)
    (hamounts : ∀ s ∈ steps, ∀ n, s.lowering? = some n → 0 ≤ n) :
    Throughout (fun g s => ¬s.Overshoots g) w.gauge steps := by
  induction steps generalizing w with
  | nil => trivial
  | cons s steps ih =>
    obtain ⟨hamount, hamounts⟩ := List.forall_mem_cons.mp hamounts
    obtain ⟨w', -, htake, htallies, -⟩ := h.take hfits.1
    obtain ⟨g', hg', hchanges⟩ := exists_changes h.count h.max hfits.1
    cases htake.symm.trans hg'
    obtain ⟨hle', hmax'⟩ := hchanges.bounds hle hmax hamount
    refine ⟨?_, fun g' hg' => ?_⟩
    · rintro ⟨n, hlowering, hlt⟩
      exact not_le_of_gt hlt (count_sub_le hle hmax (hamount n hlowering))
    · cases htake.symm.trans hg'
      exact ih htallies hle' hmax' (hfits.2 _ htake) hamounts

end Watched

/-- Whatever is done to a gauge can be done as long as nothing overflows, and the peak is the
highest of the values that did not come from a lowering. A copy has the same value, and it is
what is read from what was written down. The peak is the highest of all values at every moment,
and a copy the same gauge, exactly when no lowering goes above the peak. That cannot happen when a
gauge that begins at zero or above, or with such a peak, is only lowered by amounts that are not
negative. -/
theorem isGreatest_noted_run {count peak : Int} {steps : List Step} (hcount : InWord count)
    (hpeak : InWord peak) (hfits : Throughout (fun g s => s.Fits g) (ofCount count peak) steps) :
    (∃ w, (Watched.begin count peak).run steps = .ok w ∧ IsGreatest w.noted w.gauge.max ∧
      ofDocument w.gauge.toDocument = .ok w.gauge.copy ∧ w.gauge.copy.count = w.gauge.count) ∧
      ((Watched.begin count peak).IsTruthfulThroughout steps ↔
        Throughout (fun g s => ¬s.Overshoots g) (ofCount count peak) steps) ∧
      (0 ≤ count ∨ 0 ≤ peak → (∀ s ∈ steps, ∀ n, s.lowering? = some n → 0 ≤ n) →
        Throughout (fun g s => ¬s.Overshoots g) (ofCount count peak) steps) := by
  have hbegin := Watched.tallies_begin hcount hpeak
  refine ⟨?_, ?_, fun hsome hamounts => ?_⟩
  · obtain ⟨w, hw, htallies⟩ := hbegin.run hfits
    exact ⟨w, hw, htallies.peak, ofDocument_toDocument htallies.count htallies.max, rfl⟩
  · refine hbegin.isTruthfulThroughout_iff ?_ hfits
    exact hbegin.truthful_iff.mpr isGreatest_pair.2
  · refine hbegin.not_overshoots (le_max_right peak count) ?_ hfits hamounts
    exact hsome.elim le_max_of_le_right le_max_of_le_left

/-- A gauge that begins below zero is raised, lowered, copied, set, read again and reset. -/
def workout : List Step := [.add 4, .sub 1, .copy, .set (-3), .reread, .reset, .inc, .dec]

theorem isGreatest_noted_run_workout :
    InWord (-2) ∧ InWord 3 ∧ Throughout (fun g s => s.Fits g) (ofCount (-2) 3) workout ∧
      (∃ w, (Watched.begin (-2) 3).run workout = .ok w ∧ IsGreatest w.noted w.gauge.max ∧
        w.gauge = ⟨0, 1⟩) ∧
      (Watched.begin (-2) 3).IsTruthfulThroughout workout := by
  have hcount : InWord (-2) := by decide
  have hpeak : InWord 3 := by decide
  have hfits : Throughout (fun g s => s.Fits g) (ofCount (-2) 3) workout := by
    decide
  obtain ⟨⟨w, hw, hgreatest, -⟩, htruthful, hnever⟩ := isGreatest_noted_run hcount hpeak hfits
  have hgauge : ((Watched.begin (-2) 3).run workout).map (·.gauge) = .ok ⟨0, 1⟩ := rfl
  rw [hw] at hgauge
  have hamounts : ∀ s ∈ workout, ∀ n, s.lowering? = some n → 0 ≤ n := by
    simp [workout, Step.lowering?]
  exact ⟨hcount, hpeak, hfits, ⟨w, hw, hgreatest, Except.ok.inj hgauge⟩,
    htruthful.mpr (hnever (.inr (by decide)) hamounts)⟩

/-- Lowering a new gauge by a negative amount raises its value, and the peak stays at zero. -/
theorem not_forall_truthful_run :
    ¬∀ (count peak : Int) (steps : List Step), InWord count → InWord peak →
      Throughout (fun g s => s.Fits g) (ofCount count peak) steps →
      ∃ w, (Watched.begin count peak).run steps = .ok w ∧ w.Truthful := by
  intro hall
  obtain ⟨w, hw, htruthful⟩ := hall 0 0 [.sub (-5)] (by decide) (by decide)
    ⟨⟨by decide, by decide⟩, fun g' _ => trivial⟩
  cases hw
  exact absurd htruthful.count_le (by decide)

end Gauge

end MessageBroker
