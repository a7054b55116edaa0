/-
# Evaluating selectors once

Subscriptions may share a selector. While the candidates for a message are gone through, the
answers that were given are kept, and a selector whose answer is kept is not evaluated again.
What is chosen is the same as if every candidate had its selector evaluated for itself, and the
evaluator is called once for each selector that occurs, in the order of first occurrence.

The selectors that are left to evaluate are told from the kept answers and the candidates that
are left, so the induction goes over the candidates with any answers kept.
-/

import MessageBroker.Proofs.Broker.LastingOperations
import MessageBroker.Proofs.Broker.PeerMatching

open Std

namespace MessageBroker

namespace Broker

variable {env : Environment} {content : Content} {known : Verdicts} {selector : Selector}

/-! ## What is left to evaluate -/

/-- The selectors of subscriptions that are not among those with an answer, each once and in the
order in which they first occur. -/
def unasked (answered : List Selector) : List Subscription → List Selector
  | [] => []
  | s :: rest =>
    match s.selector with
    | none => unasked answered rest
    | some selector =>
      if selector ∈ answered then unasked answered rest
      else selector :: unasked (selector :: answered) rest

theorem mem_unasked {answered : List Selector} {subs : List Subscription} :
    selector ∈ unasked answered subs ↔
      selector ∉ answered ∧ ∃ s ∈ subs, s.selector = some selector := by
  induction subs generalizing answered with
  | nil => simp [unasked]
  | cons s subs ih =>
    rw [unasked]
    cases hselector : s.selector with
    | none => simp [ih, hselector]
    | some first =>
      simp only [List.exists_mem_cons_iff, hselector, Option.some.injEq]
      split
      next hknown =>
        rw [ih]
        refine and_congr_right fun hnew => (or_iff_right ?_).symm
        rintro rfl
        exact hnew hknown
      next hnew =>
        rw [List.mem_cons, ih, List.mem_cons, not_or]
        by_cases hsame : selector = first
        · simp [hsame, hnew]
        · simp [hsame, Ne.symm hsame]

theorem nodup_unasked (answered : List Selector) (subs : List Subscription) :
    (unasked answered subs).Nodup := by
  induction subs generalizing answered with
  | nil => exact List.nodup_nil
  | cons s subs ih =>
    rw [unasked]
    split
    · exact ih answered
    next first _ =>
      split
      · exact ih answered
      · exact List.nodup_cons.mpr
          ⟨fun hmem => (mem_unasked.mp hmem).1 List.mem_cons_self, ih (first :: answered)⟩

/-! ## What an evaluation leaves behind -/

/-- What is noted of the evaluation of a selector. -/
def evaluation (env : Environment) (content : Content) (selector : Selector) : List Event :=
  match env.evaluator with
  | none =>
    [.log .warning s!"no selector evaluator configured, selector `{selector}` does not match"]
  | some evaluator =>
    match evaluator selector content.headers content.body with
    | .ok _ => [.evaluation selector]
    | .error fault =>
      [.evaluation selector, .log .warning s!"selector `{selector}` evaluation failed, {fault}"]

theorem fst_evaluate (env : Environment) (content : Content) (selector : Selector) (b : Broker) :
    (evaluate env content selector b).1 =
      { b with journal := b.journal ++ evaluation env content selector } := by
  rw [evaluate, evaluation]
  cases env.evaluator with
  | none => rfl
  | some evaluator =>
    dsimp only
    cases evaluator selector content.headers content.body with
    | ok holds => rfl
    | error fault => simp [log, record]

/-- Evaluates selectors one after the other. -/
def evaluateAll (env : Environment) (content : Content) (selectors : List Selector) (b : Broker) :
    Broker :=
  selectors.foldl (fun b selector => (evaluate env content selector b).1) b

theorem evaluateAll_eq (selectors : List Selector) (b : Broker) :
    evaluateAll env content selectors b =
      { b with journal := b.journal ++ selectors.flatMap (evaluation env content) } := by
  induction selectors generalizing b with
  | nil => simp [evaluateAll]
  | cons selector selectors ih =>
    show evaluateAll env content selectors (evaluate env content selector b).1 = _
    rw [ih, fst_evaluate, List.flatMap_cons, List.append_assoc]

/-- The calls of the evaluator among entries of the journal. -/
def evaluated (entries : List Event) : List Selector :=
  entries.filterMap fun
    | .evaluation selector => some selector
    | _ => none

/-- An evaluator is called for each selector that is evaluated. -/
theorem evaluated_flatMap (env : Environment) (content : Content) (selectors : List Selector) :
    evaluated (selectors.flatMap (evaluation env content)) =
      if env.evaluator.isSome then selectors else [] := by
  have hone (selector : Selector) : evaluated (evaluation env content selector) =
      if env.evaluator.isSome then [selector] else [] := by
    rw [evaluation]
    cases env.evaluator with
    | none => rfl
    | some evaluator =>
      dsimp only
      cases evaluator selector content.headers content.body with
      | ok holds => rfl
      | error fault => rfl
  induction selectors with
  | nil => simp [evaluated]
  | cons selector selectors ih =>
    rw [List.flatMap_cons, evaluated, List.filterMap_append]
    change evaluated _ ++ evaluated _ = _
    rw [hone, ih]
    split <;> rfl

/-! ## Going through candidates -/

theorem lookup_eq_none_iff : known.lookup selector = none ↔ selector ∉ known.map Prod.fst := by
  rw [List.lookup_eq_none_iff, List.mem_map]
  constructor
  · rintro h ⟨answer, hanswer, rfl⟩
    simpa using h answer hanswer
  · intro h answer hanswer
    simpa using fun heq : selector = answer.1 => h ⟨answer, hanswer, heq.symm⟩

/-- Going through candidates evaluates what is left to evaluate, and nothing else. -/
theorem fst_select (subs : List Subscription) (known : Verdicts) (b : Broker) :
    (select env content subs known b).1 =
      evaluateAll env content (unasked (known.map Prod.fst) subs) b := by
  induction subs generalizing known b with
  | nil => rfl
  | cons s subs ih =>
    rw [select, unasked]
    cases hselector : s.selector with
    | none => exact ih known b
    | some selector =>
      dsimp only
      cases hlookup : known.lookup selector with
      | some holds =>
        have hknown : selector ∈ known.map Prod.fst := by
          by_contra hnew
          rw [lookup_eq_none_iff.mpr hnew] at hlookup
          cases hlookup
        rw [consult, hlookup, if_pos hknown]
        exact ih known b
      | none =>
        rw [consult, hlookup, if_neg (lookup_eq_none_iff.mp hlookup)]
        exact ih _ _

/-- A choice among candidates keeps those whose own selector holds, in their order, and has the
evaluator called once for each selector that occurs. -/
structure Chooses (env : Environment) (content : Content) (subs : List Subscription) (b : Broker)
    (result : Broker × List Subscription) : Prop where
  chosen : result.2 = subs.filter fun s => s.selector.all (verdict env content)
  evaluations : ∃ asked : List Selector, asked.Nodup ∧
    (∀ selector, selector ∈ asked ↔ ∃ s ∈ subs, s.selector = some selector) ∧
    result.1 = evaluateAll env content asked b ∧
    evaluated (entriesSince b result.1) = if env.evaluator.isSome then asked else []

/-- Whichever candidates there are and whatever the evaluator answers, keeping answers makes no
difference to what is chosen, and each selector is evaluated once. So it is for the subscriptions
of a destination that a message may be for. -/
theorem chooses_select (env : Environment) (content : Content) (b : Broker) :
    (∀ subs, Chooses env content subs b (select env content subs [] b)) ∧
      ∀ d ts, Chooses env content (d.registry.candidates ts) b
        (matchingSubscriptions env d ts content b) := by
  have hall (subs : List Subscription) :
      Chooses env content subs b (select env content subs [] b) := by
    have hselected : (select env content subs [] b).1 =
        evaluateAll env content (unasked [] subs) b := fst_select subs [] b
    refine ⟨select_eq_filter subs (by intro _ _ h; cases h) b,
      unasked [] subs, nodup_unasked [] subs, fun selector => ?_, hselected, ?_⟩
    · rw [mem_unasked, and_iff_right List.not_mem_nil]
    · rw [hselected, evaluateAll_eq, entriesSince_of_eq_append rfl, evaluated_flatMap]
  exact ⟨hall, fun d ts => hall (d.registry.candidates ts)⟩

end Broker

end MessageBroker
