/-
# Checks that change nothing

A message of a client and a request to subscribe are checked before anything is done about
them. The authorizer may be asked about roles on the way, and that it was asked is all that
the checks leave behind.

A constraint on an access is satisfied or not whatever else is checked. Where a list is
checked element by element, the error is that of the first element that fails.
-/

import MessageBroker.Broker.Routing
import MessageBroker.Proofs.Broker.Building

open Std

namespace MessageBroker

namespace Except

variable {ε α β : Type} {f : α → Except ε β} {l : List α} {l' : List β} {x : α} {e : ε}

/-- The error of the first element of a list at which a check fails. -/
def FirstError (f : α → Except ε β) (l : List α) (e : ε) : Prop :=
  ∃ before x after, l = before ++ x :: after ∧ (∀ y ∈ before, ∃ z, f y = .ok z) ∧ f x = .error e

theorem not_firstError_nil : ¬FirstError f [] e := by
  rintro ⟨before, x, after, h, -⟩
  cases before <;> cases h

theorem firstError_cons :
    FirstError f (x :: l) e ↔ f x = .error e ∨ (∃ z, f x = .ok z) ∧ FirstError f l e := by
  constructor
  · rintro ⟨_ | ⟨y, before⟩, y', after, h, hbefore, hy'⟩
    · cases h
      exact .inl hy'
    · cases h
      exact .inr ⟨hbefore x List.mem_cons_self, before, y', after, rfl,
        fun y hy => hbefore y (List.mem_cons_of_mem _ hy), hy'⟩
  · rintro (hx | ⟨hx, before, y, after, rfl, hbefore, hy⟩)
    · exact ⟨[], x, l, rfl, nofun, hx⟩
    · refine ⟨x :: before, y, after, rfl, ?_, hy⟩
      intro y' hy'
      rcases List.mem_cons.mp hy' with rfl | hy'
      · exact hx
      · exact hbefore y' hy'

theorem mapM_eq_error_iff : l.mapM f = .error e ↔ FirstError f l e := by
  induction l with
  | nil => exact ⟨nofun, fun h => absurd h not_firstError_nil⟩
  | cons x l ih =>
    rw [List.mapM_cons, firstError_cons, ← ih]
    cases hx : f x with
    | error e' => simp [bind, Except.bind]
    | ok z => cases hl : l.mapM f <;> simp [bind, Except.bind, pure, Except.pure]

theorem forM_eq_error_iff {g : α → Except ε Unit} : l.forM g = .error e ↔ FirstError g l e := by
  induction l with
  | nil => exact ⟨nofun, fun h => absurd h not_firstError_nil⟩
  | cons x l ih =>
    rw [firstError_cons, ← ih]
    show (g x >>= fun _ => l.forM g) = _ ↔ _
    cases hx : g x <;> simp [bind, Except.bind]

/-- Where a check of the answers of a traversal fails first, told from the elements. -/
theorem firstError_iff_of_mapM_eq_ok {γ : Type} {g : β → Except ε γ} (h : l.mapM f = .ok l') :
    FirstError g l' e ↔ ∃ before x after z, l = before ++ x :: after ∧
      (∀ y ∈ before, ∀ z, f y = .ok z → ∃ u, g z = .ok u) ∧ f x = .ok z ∧ g z = .error e := by
  induction l generalizing l' with
  | nil =>
    cases h
    refine ⟨fun h => absurd h not_firstError_nil, ?_⟩
    rintro ⟨_ | ⟨y, before⟩, x, after, z, h, -⟩ <;> cases h
  | cons a l ih =>
    obtain ⟨b, bs, hb, hbs, rfl⟩ := exists_of_mapM_cons_eq_ok h
    have hsame {z : β} (hz : f a = .ok z) : z = b := Except.ok.inj (hz.symm.trans hb)
    rw [firstError_cons, ih hbs]
    constructor
    · rintro (hfirst | ⟨hok, before, x, after, z, rfl, hbefore, hx, hz⟩)
      · exact ⟨[], a, l, b, rfl, nofun, hb, hfirst⟩
      · refine ⟨a :: before, x, after, z, rfl, ?_, hx, hz⟩
        intro y hy z' hz'
        rcases List.mem_cons.mp hy with rfl | hy
        · exact hsame hz' ▸ hok
        · exact hbefore y hy z' hz'
    · rintro ⟨_ | ⟨y, before⟩, x, after, z, h, hbefore, hx, hz⟩
      · cases h
        exact .inl (hsame hx ▸ hz)
      · cases h
        exact .inr ⟨hbefore a List.mem_cons_self b hb, before, x, after, z, rfl,
          fun y hy => hbefore y (List.mem_cons_of_mem _ hy), hx, hz⟩

end Except

namespace Broker

variable {env : Environment} {b b' b'' : Broker} {d : Destination} {access : Access}
  {principal : Option Principal} {constraint : Constraint} {p : Principal}

/-! ## What checks leave behind -/

/-- Nothing was done but asking the authorizer about roles. -/
def OnlyAsked (b b' : Broker) : Prop :=
  ∃ asked : List Event, (∀ e ∈ asked, ∃ p roles, e = .roleCheck p roles) ∧
    b' = { b with journal := b.journal ++ asked }

theorem OnlyAsked.refl (b : Broker) : OnlyAsked b b :=
  ⟨[], List.forall_mem_nil _, by rw [List.append_nil]⟩

theorem onlyAsked_record (p : Principal) (roles : List String) (b : Broker) :
    OnlyAsked b (b.record (.roleCheck p roles)) :=
  ⟨[.roleCheck p roles], fun _ he => ⟨p, roles, List.mem_singleton.mp he⟩, rfl⟩

/-! ## The destination -/

theorem requireStarted_of_none {id : DestinationId} (hd : b.destination? id = none) :
    b.requireStarted id = .error (.unknownDestination id) := by
  rw [requireStarted, requireDestination]
  rw [hd]
  rfl

theorem requireStarted_of_some {id : DestinationId} (hd : b.destination? id = some d) :
    b.requireStarted id = if d.started then .ok d else .error (.notStarted id) := by
  unfold requireStarted requireDestination Destination.requireStarted
  rw [hd]
  cases hstarted : d.started with
  | true => simp [bind, Except.bind, hstarted, pure, Except.pure]
  | false => simp [bind, Except.bind, hstarted, (mem_of_destination? hd).2]

/-! ## Constraints -/

/-- The constraint on an access, if there is one, is satisfied. -/
def Satisfied (env : Environment) (access : Access) (d : Destination)
    (principal : Option Principal) : Prop :=
  ∀ constraint, d.constraintOn access = some constraint → ∃ p, principal = some p ∧
    (constraint.roles = [] ∨ env.authorizer.satisfies p constraint.roles = .ok true)

theorem authorize_of_noPrincipal (h : d.constraintOn access ≠ none) :
    authorize env access d none b = (b, .error (.noPrincipal access d.id)) := by
  rw [authorize]
  split
  next hnone => exact absurd hnone h
  next => rfl

/-- The authorizer is asked where a constraint names roles, and its answer decides. -/
theorem authorize_of_roles (h : d.constraintOn access = some constraint)
    (hroles : constraint.roles ≠ []) :
    authorize env access d (some p) b =
      (b.record (.roleCheck p constraint.roles),
        match env.authorizer.satisfies p constraint.roles with
        | .ok true => .ok ()
        | .ok false => .error (.insufficientRole p.name access d.id)
        | .error fault => .error (.collaborator fault)) := by
  have hsome : constraint.roles.isEmpty = false := List.isEmpty_eq_false_iff.mpr hroles
  rw [authorize]
  rw [h]
  dsimp only
  rw [hsome, if_neg Bool.false_ne_true]
  cases env.authorizer.satisfies p constraint.roles with
  | error fault => rfl
  | ok satisfied => cases satisfied <;> rfl

/-- An access is authorized when the constraint on it is satisfied, and not otherwise. -/
theorem authorize_spec (env : Environment) (access : Access) (d : Destination)
    (principal : Option Principal) (b : Broker) :
    OnlyAsked b (authorize env access d principal b).1 ∧
      ((authorize env access d principal b).2 = .ok () ↔ Satisfied env access d principal) := by
  cases hconstraint : d.constraintOn access with
  | none =>
    have hfree : authorize env access d principal b = (b, .ok ()) := by
      rw [authorize]
      rw [hconstraint]
    rw [hfree]
    exact ⟨.refl b, fun _ _ h => (nomatch hconstraint.symm.trans h), fun _ => rfl⟩
  | some constraint =>
    cases principal with
    | none =>
      rw [authorize_of_noPrincipal (by rw [hconstraint]; exact nofun)]
      refine ⟨.refl b, nofun, fun h => ?_⟩
      obtain ⟨p, hp, -⟩ := h constraint hconstraint
      cases hp
    | some p =>
      have hiff : Satisfied env access d (some p) ↔
          constraint.roles = [] ∨ env.authorizer.satisfies p constraint.roles = .ok true := by
        constructor
        · intro h
          obtain ⟨q, hq, hroles⟩ := h constraint hconstraint
          cases hq
          exact hroles
        · intro hroles constraint' h
          rw [hconstraint] at h
          cases h
          exact ⟨p, rfl, hroles⟩
      rw [hiff]
      by_cases hroles : constraint.roles = []
      · have hfree : authorize env access d (some p) b = (b, .ok ()) := by
          rw [authorize]
          rw [hconstraint]
          dsimp only
          rw [hroles]
          rfl
        rw [hfree]
        exact ⟨.refl b, fun _ => .inl hroles, fun _ => rfl⟩
      · rw [authorize_of_roles hconstraint hroles]
        refine ⟨onlyAsked_record _ _ _, ?_⟩
        cases env.authorizer.satisfies p constraint.roles with
        | error fault => simp [hroles]
        | ok satisfied => cases satisfied <;> simp [hroles]

end Broker

end MessageBroker
