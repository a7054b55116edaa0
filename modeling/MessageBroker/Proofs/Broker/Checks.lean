/-
# The checks of a message

A message of a client passes a row of checks before it is counted anywhere. Each check is
described by itself here, with the error that it gives, and the message is refused with the
error of the first one that fails. Checks that come later may fail as well; they are not
asked about.
-/

import MessageBroker.Proofs.Broker.Gate

open Std

namespace MessageBroker

/-- The subtopics that a message is sent to; empty texts are passed over. -/
def Message.texts (m : Message) : List String := m.subtopics.filter (· ≠ "")

/-- The checks of a message of a client, in their order. -/
inductive GateCheck where
  | destination
  | started
  | principal
  | authorizer
  | roles
  | subtopics
  | texts
  | veto
  deriving DecidableEq, Repr

namespace GateCheck

/-- The place of a check in their order. -/
def rank : GateCheck → Nat
  | destination => 0
  | started => 1
  | principal => 2
  | authorizer => 3
  | roles => 4
  | subtopics => 5
  | texts => 6
  | veto => 7

/-- The category of the error of a check. -/
def category : GateCheck → ErrorCategory
  | destination | subtopics => .configuration
  | started => .serviceUnavailable
  | principal => .security .noPrincipal
  | authorizer => .collaborator
  | roles => .security .insufficientRole
  | texts => .invalidSubtopic
  | veto => .security .subtopicDenied

end GateCheck

/-- A text stands for a subtopic that messages can be sent to. -/
def StandsFor (separator : Char) (text : String) (t : Subtopic) : Prop :=
  Subtopic.parse text separator = .ok t ∧ t.hasWildcard = false

namespace Broker

variable {env : Environment} {b : Broker} {m : Message} {d : Destination} {check : GateCheck}
  {e : BrokerError}

/-- How a message of a client fails a check, with the error of the check. -/
inductive Fails (env : Environment) (m : Message) (b : Broker) : GateCheck → BrokerError → Prop
  | unknown (h : b.destination? m.destination = none) :
      Fails env m b .destination (.unknownDestination m.destination)
  | idle {d : Destination} (hd : b.destination? m.destination = some d) (h : d.started = false) :
      Fails env m b .started (.notStarted m.destination)
  | anonymous {d : Destination} (hd : b.destination? m.destination = some d)
      (h : d.sendConstraint ≠ none) (hp : b.principal? m.client = none) :
      Fails env m b .principal (.noPrincipal .send m.destination)
  | unanswered {d : Destination} {constraint : Constraint} {p : Principal} {fault : Fault}
      (hd : b.destination? m.destination = some d) (hc : d.sendConstraint = some constraint)
      (hroles : constraint.roles ≠ []) (hp : b.principal? m.client = some p)
      (h : env.authorizer.satisfies p constraint.roles = .error fault) :
      Fails env m b .authorizer (.collaborator fault)
  | unqualified {d : Destination} {constraint : Constraint} {p : Principal}
      (hd : b.destination? m.destination = some d) (hc : d.sendConstraint = some constraint)
      (hroles : constraint.roles ≠ []) (hp : b.principal? m.client = some p)
      (h : env.authorizer.satisfies p constraint.roles = .ok false) :
      Fails env m b .roles (.insufficientRole p.name .send m.destination)
  | disallowed {d : Destination} (hd : b.destination? m.destination = some d)
      (htexts : m.texts ≠ []) (h : d.settings.allowSubtopics = false) :
      Fails env m b .subtopics (.subtopicsDisallowed m.destination)
  | malformed {d : Destination} {before after : List String} {text : String}
      {error : Subtopic.Error} (hd : b.destination? m.destination = some d)
      (htexts : m.texts = before ++ text :: after)
      (hbefore : ∀ text' ∈ before, ∃ t', StandsFor d.settings.separator text' t')
      (h : Subtopic.parse text d.settings.separator = .error error) :
      Fails env m b .texts (.subtopic error)
  | wildcard {d : Destination} {before after : List String} {text : String} {t : Subtopic}
      (hd : b.destination? m.destination = some d) (htexts : m.texts = before ++ text :: after)
      (hbefore : ∀ text' ∈ before, ∃ t', StandsFor d.settings.separator text' t')
      (hread : Subtopic.parse text d.settings.separator = .ok t) (h : t.hasWildcard = true) :
      Fails env m b .texts (.subtopic (.wildcardInMessage text))
  | vetoed {d : Destination} {before after : List String} {text : String} {t : Subtopic}
      (hd : b.destination? m.destination = some d) (htexts : m.texts = before ++ text :: after)
      (hbefore : ∀ text' ∈ before, ∀ t', StandsFor d.settings.separator text' t' →
        env.authorizer.permits .send d.id t' (b.principal? m.client) = true)
      (hread : StandsFor d.settings.separator text t)
      (h : env.authorizer.permits .send d.id t (b.principal? m.client) = false) :
      Fails env m b .veto (.subtopicDenied .send text m.destination)

/-- No check before this one fails. -/
def PassesBefore (env : Environment) (m : Message) (b : Broker) (rank : Nat) : Prop :=
  ∀ check e, check.rank < rank → ¬Fails env m b check e

theorem PassesBefore.mono {rank rank' : Nat} (h : PassesBefore env m b rank') (hle : rank ≤ rank') :
    PassesBefore env m b rank :=
  fun check e hlt => h check e (Nat.lt_of_lt_of_le hlt hle)

theorem category_of_fails (h : Fails env m b check e) : e.category = check.category := by
  cases h <;> rfl

/-! ## Passing the checks one by one -/

theorem started_of_passes (hd : b.destination? m.destination = some d)
    (h : PassesBefore env m b 2) : d.started = true := by
  cases hstarted : d.started with
  | true => rfl
  | false => exact absurd (.idle hd hstarted) (h .started _ (by decide))

theorem satisfied_of_passes (hd : b.destination? m.destination = some d)
    (h : PassesBefore env m b 5) : Satisfied env .send d (b.principal? m.client) := by
  intro constraint hconstraint
  have hc : d.sendConstraint = some constraint := hconstraint
  cases hp : b.principal? m.client with
  | none => exact absurd (.anonymous hd (by rw [hc]; exact nofun) hp) (h .principal _ (by decide))
  | some p =>
    refine ⟨p, rfl, ?_⟩
    by_cases hroles : constraint.roles = []
    · exact .inl hroles
    · right
      cases hanswer : env.authorizer.satisfies p constraint.roles with
      | error fault =>
        exact absurd (.unanswered hd hc hroles hp hanswer) (h .authorizer _ (by decide))
      | ok satisfied =>
        cases satisfied with
        | true => rfl
        | false => exact absurd (.unqualified hd hc hroles hp hanswer) (h .roles _ (by decide))

/-- Reads a text that a message is sent to, with the error of the broker. -/
def readText (d : Destination) (text : String) : Except BrokerError Subtopic :=
  (Subtopic.parseForMessage text d.settings.separator).mapError .subtopic

theorem readText_eq (d : Destination) (text : String) :
    readText d text =
      match Subtopic.parse text d.settings.separator with
      | .error error => .error (.subtopic error)
      | .ok t => if t.hasWildcard then .error (.subtopic (.wildcardInMessage text)) else .ok t := by
  rw [readText, Subtopic.parseForMessage]
  cases Subtopic.parse text d.settings.separator with
  | error error => rfl
  | ok t =>
    show (if t.hasWildcard = true then Except.error _ else Except.ok t).mapError _ =
      if t.hasWildcard = true then _ else _
    split <;> rfl

theorem readText_eq_ok_iff {text : String} {t : Subtopic} :
    readText d text = .ok t ↔ StandsFor d.settings.separator text t := by
  rw [readText_eq, StandsFor]
  cases Subtopic.parse text d.settings.separator with
  | error error => exact ⟨nofun, fun h => nomatch h.1⟩
  | ok t' =>
    dsimp only
    split
    next hwild =>
      refine ⟨nofun, fun h => absurd h.2 ?_⟩
      rw [← Except.ok.inj h.1, hwild]
      exact nofun
    next hplain =>
      refine ⟨fun h => ⟨congrArg Except.ok (Except.ok.inj h), ?_⟩,
        fun h => congrArg Except.ok (Except.ok.inj h.1)⟩
      rw [← Except.ok.inj h]
      exact Bool.not_eq_true _ ▸ hplain

theorem parseMessageSubtopics_of_disallowed (htexts : m.texts ≠ [])
    (h : d.settings.allowSubtopics = false) :
    d.parseMessageSubtopics m.subtopics = .error (.subtopicsDisallowed d.id) := by
  have hsome : m.texts.isEmpty = false := List.isEmpty_eq_false_iff.mpr htexts
  rw [Destination.parseMessageSubtopics]
  rw [show m.subtopics.filter (· ≠ "") = m.texts from rfl]
  dsimp only
  rw [hsome, h]
  rfl

theorem parseMessageSubtopics_of_allowed
    (h : ¬(m.texts ≠ [] ∧ d.settings.allowSubtopics = false)) :
    d.parseMessageSubtopics m.subtopics = m.texts.mapM (readText d) := by
  have hpass : (!m.texts.isEmpty && !d.settings.allowSubtopics) = false := by
    rw [Bool.and_eq_false_iff, Bool.not_eq_false', Bool.not_eq_false', List.isEmpty_iff]
    by_cases hempty : m.texts = []
    · exact .inl hempty
    · exact .inr (by simpa using fun hd => h ⟨hempty, hd⟩)
  rw [Destination.parseMessageSubtopics]
  rw [show m.subtopics.filter (· ≠ "") = m.texts from rfl]
  dsimp only
  rw [hpass]
  rfl

theorem allowed_of_passes (hd : b.destination? m.destination = some d)
    (h : PassesBefore env m b 6) : ¬(m.texts ≠ [] ∧ d.settings.allowSubtopics = false) :=
  fun hnot => h .subtopics _ (by decide) (.disallowed hd hnot.1 hnot.2)

/-- The texts of a message can be read when no check of them fails. -/
theorem readable_of_passes (hd : b.destination? m.destination = some d)
    (h : PassesBefore env m b 7) : ∃ ts, m.texts.mapM (readText d) = .ok ts := by
  cases hread : m.texts.mapM (readText d) with
  | ok ts => exact ⟨ts, rfl⟩
  | error e =>
    obtain ⟨before, text, after, htexts, hbefore, hfirst⟩ := Except.mapM_eq_error_iff.mp hread
    have hreadable : ∀ text' ∈ before, ∃ t', StandsFor d.settings.separator text' t' := by
      intro text' htext'
      obtain ⟨t', ht'⟩ := hbefore text' htext'
      exact ⟨t', readText_eq_ok_iff.mp ht'⟩
    rw [readText_eq] at hfirst
    split at hfirst
    next error hparse =>
      exact absurd (.malformed hd htexts hreadable hparse) (h .texts _ (by decide))
    next t hparse =>
      split at hfirst
      next hwild =>
        exact absurd (.wildcard hd htexts hreadable hparse hwild) (h .texts _ (by decide))
      next => cases hfirst

theorem authorizeSubtopic_eq (access : Access) (d : Destination) (principal : Option Principal)
    (t : Subtopic) :
    authorizeSubtopic env access d principal t =
      if env.authorizer.permits access d.id t principal then .ok ()
      else .error (.subtopicDenied access t.value d.id) := rfl

theorem authorizeSubtopic_eq_ok_iff {access : Access} {principal : Option Principal}
    {t : Subtopic} : (∃ u, authorizeSubtopic env access d principal t = .ok u) ↔
      env.authorizer.permits access d.id t principal = true := by
  rw [authorizeSubtopic]
  split
  next h => exact ⟨fun _ => h, fun _ => ⟨(), rfl⟩⟩
  next h => exact ⟨nofun, fun hp => absurd hp h⟩

/-- The authorizer vetoes none of the subtopics when that check does not fail. -/
theorem permitted_of_passes {ts : List Subtopic} (hd : b.destination? m.destination = some d)
    (hread : m.texts.mapM (readText d) = .ok ts) (h : PassesBefore env m b 8) :
    checkSubtopics env d (b.principal? m.client) ts = .ok () := by
  cases hcheck : checkSubtopics env d (b.principal? m.client) ts with
  | ok _ => rfl
  | error e =>
    have hfirst := Except.forM_eq_error_iff.mp hcheck
    obtain ⟨before, text, after, t, htexts, hbefore, hparse, hdenied⟩ :=
      (Except.firstError_iff_of_mapM_eq_ok hread).mp hfirst
    have hvetoed : env.authorizer.permits .send d.id t (b.principal? m.client) = false := by
      rw [← Bool.not_eq_true, ← authorizeSubtopic_eq_ok_iff, hdenied]
      exact nofun
    have hothers : ∀ text' ∈ before, ∀ t', StandsFor d.settings.separator text' t' →
        env.authorizer.permits .send d.id t' (b.principal? m.client) = true :=
      fun text' htext' t' ht' => authorizeSubtopic_eq_ok_iff.mp
        (hbefore text' htext' t' (readText_eq_ok_iff.mpr ht'))
    exact absurd (.vetoed hd htexts hothers (readText_eq_ok_iff.mp hparse) hvetoed)
      (h .veto _ (by decide))

/-! ## The gate as a whole -/

theorem onlyAsked_passGate (env : Environment) (m : Message) (b : Broker) :
    OnlyAsked b (passGate env m b).1 := by
  rw [passGate]
  split
  · exact .refl b
  next d _ =>
    have hasked := (authorize_spec env .send d (b.principal? m.client) b).1
    dsimp only
    rw [authorizeSend]
    split
    next heq =>
      rw [heq] at hasked
      exact hasked
    next heq =>
      rw [heq] at hasked
      exact hasked

/-- Where the constraint is satisfied, the subtopics decide. -/
theorem snd_passGate_of_satisfied (hd : b.destination? m.destination = some d)
    (hstarted : d.started = true) (hsatisfied : Satisfied env .send d (b.principal? m.client)) :
    (passGate env m b).2 = do
      let ts ← d.parseMessageSubtopics m.subtopics
      checkSubtopics env d (b.principal? m.client) ts
      return (d, ts) := by
  have hok := (authorize_spec env .send d (b.principal? m.client) b).2.mpr hsatisfied
  rw [passGate]
  rw [requireStarted_of_some hd, hstarted, if_pos rfl]
  dsimp only
  rw [authorizeSend]
  split
  next heq =>
    rw [heq] at hok
    cases hok
  next => rfl

theorem snd_passGate_of_refused (hd : b.destination? m.destination = some d)
    (hstarted : d.started = true)
    (hrefused : (authorize env .send d (b.principal? m.client) b).2 = .error e) :
    (passGate env m b).2 = .error e := by
  rw [passGate]
  rw [requireStarted_of_some hd, hstarted, if_pos rfl]
  dsimp only
  rw [authorizeSend]
  split
  next heq =>
    rw [heq] at hrefused
    cases hrefused
    rfl
  next heq =>
    rw [heq] at hrefused
    cases hrefused

/-- The first text that cannot be read decides, when nothing was refused before. -/
theorem snd_passGate_of_unreadable {before after : List String} {text : String}
    (hd : b.destination? m.destination = some d) (hpasses : PassesBefore env m b 6)
    (htexts : m.texts = before ++ text :: after)
    (hbefore : ∀ text' ∈ before, ∃ t', StandsFor d.settings.separator text' t')
    (hread : readText d text = .error e) : (passGate env m b).2 = .error e := by
  have hfirst : m.texts.mapM (readText d) = .error e := by
    refine Except.mapM_eq_error_iff.mpr ⟨before, text, after, htexts, ?_, hread⟩
    intro text' htext'
    obtain ⟨t', ht'⟩ := hbefore text' htext'
    exact ⟨t', readText_eq_ok_iff.mpr ht'⟩
  rw [snd_passGate_of_satisfied hd (started_of_passes hd (hpasses.mono (by decide)))
      (satisfied_of_passes hd (hpasses.mono (by decide))),
    parseMessageSubtopics_of_allowed (allowed_of_passes hd hpasses), hfirst]
  rfl

/-- A message is refused with the error of the first check that fails. -/
theorem snd_passGate_of_fails (hfails : Fails env m b check e)
    (hfirst : PassesBefore env m b check.rank) : (passGate env m b).2 = .error e := by
  cases hfails with
  | unknown h => rw [passGate, requireStarted_of_none h]
  | idle hd h =>
    rw [passGate, requireStarted_of_some hd, h]
    rfl
  | @anonymous d hd h hp =>
    refine snd_passGate_of_refused hd (started_of_passes hd (hfirst.mono (by decide))) ?_
    have hconstraint : d.constraintOn .send ≠ none := h
    rw [hp, authorize_of_noPrincipal hconstraint, (mem_of_destination? hd).2]
  | @unanswered d constraint p fault hd hc hroles hp h =>
    refine snd_passGate_of_refused hd (started_of_passes hd (hfirst.mono (by decide))) ?_
    have hconstraint : d.constraintOn .send = some constraint := hc
    rw [hp, authorize_of_roles hconstraint hroles, h]
  | @unqualified d constraint p hd hc hroles hp h =>
    refine snd_passGate_of_refused hd (started_of_passes hd (hfirst.mono (by decide))) ?_
    have hconstraint : d.constraintOn .send = some constraint := hc
    rw [hp, authorize_of_roles hconstraint hroles, h, (mem_of_destination? hd).2]
  | disallowed hd htexts h =>
    rw [snd_passGate_of_satisfied hd (started_of_passes hd (hfirst.mono (by decide)))
      (satisfied_of_passes hd (hfirst.mono (by decide))),
      parseMessageSubtopics_of_disallowed htexts h, (mem_of_destination? hd).2]
    rfl
  | malformed hd htexts hbefore h =>
    refine snd_passGate_of_unreadable hd (hfirst.mono (by decide)) htexts hbefore ?_
    rw [readText_eq, h]
  | wildcard hd htexts hbefore hread h =>
    refine snd_passGate_of_unreadable hd (hfirst.mono (by decide)) htexts hbefore ?_
    rw [readText_eq, hread]
    exact if_pos h
  | @vetoed d before after text t hd htexts hbefore hread h =>
    obtain ⟨ts, hts⟩ := readable_of_passes hd (hfirst.mono (by decide))
    have hvetoed : checkSubtopics env d (b.principal? m.client) ts =
        .error (.subtopicDenied .send text m.destination) := by
      refine Except.forM_eq_error_iff.mpr ((Except.firstError_iff_of_mapM_eq_ok hts).mpr
        ⟨before, text, after, t, htexts, ?_, readText_eq_ok_iff.mpr hread, ?_⟩)
      · exact fun text' htext' t' ht' => authorizeSubtopic_eq_ok_iff.mpr
          (hbefore text' htext' t' (readText_eq_ok_iff.mp ht'))
      · rw [authorizeSubtopic_eq, h, (Subtopic.value_separator_of_parse hread.1).1,
          (mem_of_destination? hd).2]
        rfl
    rw [snd_passGate_of_satisfied hd (started_of_passes hd (hfirst.mono (by decide)))
      (satisfied_of_passes hd (hfirst.mono (by decide))),
      parseMessageSubtopics_of_allowed (allowed_of_passes hd (hfirst.mono (by decide))), hts]
    show (checkSubtopics env d (b.principal? m.client) ts >>= fun _ => _) = _
    rw [hvetoed]
    rfl

/-- A message that fails no check passes the gate. -/
theorem exists_passGate_of_passes (h : PassesBefore env m b 8) :
    ∃ d ts, b.destination? m.destination = some d ∧ d.started = true ∧
      d.parseMessageSubtopics m.subtopics = .ok ts ∧ (passGate env m b).2 = .ok (d, ts) := by
  cases hd : b.destination? m.destination with
  | none => exact absurd (.unknown hd) (h .destination _ (by decide))
  | some d =>
    have hstarted := started_of_passes hd (h.mono (by decide))
    obtain ⟨ts, hts⟩ := readable_of_passes hd (h.mono (by decide))
    have hparse := parseMessageSubtopics_of_allowed (allowed_of_passes hd (h.mono (by decide)))
    refine ⟨d, ts, rfl, hstarted, hparse.trans hts, ?_⟩
    rw [snd_passGate_of_satisfied hd hstarted (satisfied_of_passes hd (h.mono (by decide))),
      hparse, hts]
    show (checkSubtopics env d (b.principal? m.client) ts >>= fun _ => _) = _
    rw [permitted_of_passes hd hts h]
    rfl

end Broker

end MessageBroker
