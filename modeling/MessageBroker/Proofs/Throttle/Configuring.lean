/-
# Settings that stay valid

The two rules of throttle settings are written several times: in the setters, each of which looks
only at what it replaces, in the check of settings as a whole, and before a limiter takes settings
over. Here they are one. Of valid settings, a setter accepts exactly what the check of the whole
accepts after the replacement, with the same error where it refuses, so that no order of calls
leads out of the valid settings.

A limiter begins with valid settings and takes over no others, whatever it is asked to. It never
answers a message on its way to a recipient with an error, since valid settings have no such
policy.
-/

import MessageBroker.Proofs.Broker.Acceptance
import MessageBroker.Proofs.Throttle.Checking

namespace MessageBroker

namespace ThrottleSettings

/-! ## Setters -/

/-- A call of a setter with its argument. -/
inductive Setter where
  | policy (d : Direction) (p : Policy)
  | client (d : Direction) (frequency : Nat)
  | destination (d : Direction) (frequency : Nat)
  deriving DecidableEq, Repr

namespace Setter

/-- The settings with the one field replaced. -/
def replace (s : ThrottleSettings) : Setter → ThrottleSettings
  | policy d p => s.set d { s.get d with policy := p }
  | client d n => s.set d { s.get d with client := n }
  | destination d n => s.set d { s.get d with destination := n }

/-- What the setter answers. -/
def answer (s : ThrottleSettings) : Setter → Except Error ThrottleSettings
  | policy d p => s.setPolicy d p
  | client d n => s.setClient d n
  | destination d n => s.setDestination d n

/-- Calls a setter on settings in place: they stay as they are when it refuses. -/
def call (s : ThrottleSettings) (f : Setter) : ThrottleSettings × Except Error Unit :=
  match f.answer s with
  | .ok s' => (s', .ok ())
  | .error e => (s, .error e)

/-- Calls setters in turn, whether they refuse or not. -/
def callAll (s : ThrottleSettings) (fs : List Setter) : ThrottleSettings :=
  fs.foldl (fun s f => (f.call s).1) s

end Setter

variable {s : ThrottleSettings} {e : Error}

theorem checkPolicy_of_validate (h : s.validate = .ok ()) (d : Direction) :
    checkPolicy d (s.get d).policy = .ok () := by
  cases d with
  | inbound => rfl
  | outbound => exact checkPolicy_outbound_eq_ok_iff.mpr (validate_eq_ok_iff.mp h).outbound

theorem checkClient_of_validate (h : s.validate = .ok ()) (d : Direction) :
    checkClient d (s.get d).client (s.get d).destination = .ok () :=
  checkClient_eq_ok_iff.mpr ((validate_eq_ok_iff.mp h).client_le d)

/-- Where the limits of one direction are replaced, only they are left to check. -/
theorem validate_set (h : s.validate = .ok ()) (d : Direction) (limits : Limits) :
    validate (s.set d limits) =
      (checkPolicy d limits.policy >>= fun _ => checkClient d limits.client limits.destination) := by
  cases d with
  | inbound =>
    have hpolicy : checkPolicy .outbound s.outbound.policy = .ok () :=
      checkPolicy_of_validate h .outbound
    have hclient : checkClient .outbound s.outbound.client s.outbound.destination = .ok () :=
      checkClient_of_validate h .outbound
    show (checkPolicy .outbound s.outbound.policy >>= fun _ =>
      checkClient .inbound limits.client limits.destination >>= fun _ =>
      checkClient .outbound s.outbound.client s.outbound.destination) = _
    rw [hpolicy, hclient]
    show (checkClient .inbound limits.client limits.destination >>= fun _ => pure ()) =
      checkClient .inbound limits.client limits.destination
    exact bind_pure _
  | outbound =>
    have hclient : checkClient .inbound s.inbound.client s.inbound.destination = .ok () :=
      checkClient_of_validate h .inbound
    show (checkPolicy .outbound limits.policy >>= fun _ =>
      checkClient .inbound s.inbound.client s.inbound.destination >>= fun _ =>
      checkClient .outbound limits.client limits.destination) = _
    rw [hclient]
    rfl

/-- On valid settings a setter makes the check of the whole, after the replacement. -/
theorem Setter.answer_of_validate (h : s.validate = .ok ()) (f : Setter) :
    f.answer s = (f.replace s).validate.map fun _ => f.replace s := by
  cases f with
  | policy d p =>
    rw [replace, validate_set h, checkClient_of_validate h d, answer, setPolicy]
    cases checkPolicy d p <;> rfl
  | client d n =>
    rw [replace, validate_set h, checkPolicy_of_validate h d, answer, setClient]
    show _ = Except.map _ (checkClient d n (s.get d).destination)
    cases checkClient d n (s.get d).destination <;> rfl
  | destination d n =>
    rw [replace, validate_set h, checkPolicy_of_validate h d, answer, setDestination]
    show _ = Except.map _ (checkClient d (s.get d).client n)
    cases checkClient d (s.get d).client n <;> rfl

/-- A setter succeeds exactly when the replacement is valid, and then it makes it. Otherwise it
leaves the settings as they are, for the reason that the check of the whole has. -/
theorem Setter.call_of_validate (h : s.validate = .ok ()) (f : Setter) :
    f.call s = match (f.replace s).validate with
      | .ok () => (f.replace s, .ok ())
      | .error e => (s, .error e) := by
  rw [call, answer_of_validate h]
  cases (f.replace s).validate <;> rfl

theorem Setter.validate_call (h : s.validate = .ok ()) (f : Setter) :
    (f.call s).1.validate = .ok () := by
  rw [call_of_validate h]
  cases hreplace : (f.replace s).validate with
  | ok _ => exact hreplace
  | error _ => exact h

theorem Setter.validate_callAll (h : s.validate = .ok ()) (fs : List Setter) :
    (callAll s fs).validate = .ok () := by
  induction fs generalizing s with
  | nil => exact h
  | cons f fs ih => exact ih (validate_call h f)

end ThrottleSettings

namespace Limiter

/-! ## Limiters at work -/

/-- What a limiter is asked to do. -/
inductive Request where
  | check (d : Direction) (c : ClientId) (requested : Option Nat) (now : Timestamp)
  | releaseInbound (c : ClientId)
  | removeClient (c : ClientId)
  | reset
  | resetRefusals (d : Direction)
  | configure (settings : ThrottleSettings)

/-- What a limiter answers: to a check its verdict, to new settings whether it takes them. -/
inductive Request.Answer where
  | verdict (v : Verdict)
  | configured (result : Except ThrottleSettings.Error Unit)
  | done

/-- Does as requested. A limiter that refuses settings stays as it is. -/
def serve (l : Limiter) : Request → Limiter × Request.Answer
  | .check d c requested now =>
    let (l, v) := l.check d c requested now
    (l, .verdict v)
  | .releaseInbound c => (l.releaseInbound c, .done)
  | .removeClient c => (l.removeClient c, .done)
  | .reset => (l.reset, .done)
  | .resetRefusals d => (l.resetRefusals d, .done)
  | .configure settings =>
    match l.configure settings with
    | .ok l => (l, .configured (.ok ()))
    | .error e => (l, .configured (.error e))

/-- Does as requested one time after another. -/
def serveAll (l : Limiter) (rs : List Request) : Limiter :=
  rs.foldl (fun l r => (l.serve r).1) l

variable {l : Limiter} {settings : ThrottleSettings} {window : Span}

theorem serve_configure (l : Limiter) (settings : ThrottleSettings) :
    l.serve (.configure settings) = match settings.validate with
      | .ok () => ({ l with settings }, .configured (.ok ()))
      | .error e => (l, .configured (.error e)) := by
  rw [serve, configure]
  cases settings.validate <;> rfl

theorem validate_of_create (h : create settings window = .ok l) : l.settings.validate = .ok () := by
  obtain ⟨_, hvalid, hl⟩ := Except.exists_of_bind_eq_ok h
  cases hl
  exact hvalid

theorem validate_serve (h : l.settings.validate = .ok ()) (r : Request) :
    (l.serve r).1.settings.validate = .ok () := by
  cases r with
  | check d c requested now =>
    show (l.check d c requested now).1.settings.validate = .ok ()
    rw [(checked_check l d c requested now).settings]
    exact h
  | releaseInbound c =>
    show (l.releaseInbound c).settings.validate = .ok ()
    rw [(returned_releaseInbound l c).settings]
    exact h
  | removeClient c => exact h
  | reset => exact h
  | resetRefusals d => exact h
  | configure settings =>
    rw [serve_configure]
    cases hvalid : settings.validate with
    | ok _ => exact hvalid
    | error _ => exact h

theorem validate_serveAll (h : l.settings.validate = .ok ()) (rs : List Request) :
    (l.serveAll rs).settings.validate = .ok () := by
  induction rs generalizing l with
  | nil => exact h
  | cons r rs ih => exact ih (validate_serve h r)

/-- A limiter admits a message, or refuses it as the policy of the direction says. -/
theorem snd_check_eq (l : Limiter) (d : Direction) (c : ClientId) (requested : Option Nat)
    (now : Timestamp) :
    (l.check d c requested now).2 = .allow ∨
      (l.check d c requested now).2 = .refusal (l.settings.get d).policy := by
  by_cases hpolicy : (l.settings.get d).policy = .none
  · exact .inl (congrArg Prod.snd (if_pos hpolicy))
  by_cases hzero : (l.settings.get d).destination = 0 ∧ l.frequencyFor d requested = 0
  · exact .inl (congrArg Prod.snd ((if_neg hpolicy).trans (if_pos hzero)))
  rw [check_of_limited hpolicy hzero]
  obtain ⟨w, hasked, -⟩ := l.askDestination_spec d now
  generalize l.askDestination d now = asked at hasked
  obtain ⟨l₁, admitted⟩ := asked
  dsimp only at hasked ⊢
  subst hasked
  cases admitted with
  | false => exact .inr rfl
  | true =>
    obtain ⟨clients, _, hasked, -⟩ := askClient_spec
      { l with destination := l.destination.set d w } d c (l.frequencyFor d requested) now
    generalize askClient _ d c (l.frequencyFor d requested) now = asked at hasked ⊢
    obtain ⟨l₂, admitted⟩ := asked
    dsimp only at hasked ⊢
    subst hasked
    rw [releaseDestination_of_limited]
    cases admitted with
    | false => exact .inr rfl
    | true => exact .inl rfl

theorem check_outbound_ne_denyError (h : l.settings.validate = .ok ()) (c : ClientId)
    (requested : Option Nat) (now : Timestamp) :
    (l.check .outbound c requested now).2 ≠ .denyError := by
  intro herror
  have hpolicy : l.settings.outbound.policy ≠ .error :=
    (ThrottleSettings.validate_eq_ok_iff.mp h).outbound
  rcases l.snd_check_eq .outbound c requested now with hallow | hrefusal
  · rw [hallow] at herror
    cases herror
  · rw [hrefusal] at herror
    change Verdict.refusal l.settings.outbound.policy = .denyError at herror
    cases hname : l.settings.outbound.policy <;> rw [hname] at herror hpolicy
    case none => cases herror
    case error => exact hpolicy rfl
    case ignore => cases herror

/-! ## Every order of calls -/

/-- No order of calls leads out of the valid settings. A setter succeeds exactly when the settings
with the field replaced are valid, and changes nothing otherwise; calls of setters on new settings
leave valid ones, whichever of them fail. Whatever a limiter is asked, its settings are valid: it
takes over new ones exactly when they are valid, without a change to its counters, and is as before
otherwise. It answers no check of a message on its way to a recipient with an error. -/
theorem settings_stay_valid :
    (∀ (s : ThrottleSettings) (f : ThrottleSettings.Setter), s.validate = .ok () →
      ((f.call s).2 = .ok () ↔ (f.replace s).validate = .ok ()) ∧
      ((f.call s).2 = .ok () → (f.call s).1 = f.replace s) ∧
      ((f.call s).2 ≠ .ok () → (f.call s).1 = s)) ∧
    (∀ fs : List ThrottleSettings.Setter,
      (ThrottleSettings.Setter.callAll .unlimited fs).validate = .ok ()) ∧
    ∀ (settings : ThrottleSettings) (window : Span) (l₀ : Limiter) (rs : List Request),
      create settings window = .ok l₀ →
      let l := l₀.serveAll rs
      l.settings.validate = .ok () ∧
      (∀ (s : ThrottleSettings) (e : ThrottleSettings.Error), s.validate = .error e →
        l.serve (.configure s) = (l, .configured (.error e))) ∧
      (∀ s : ThrottleSettings, s.validate = .ok () →
        l.serve (.configure s) = ({ l with settings := s }, .configured (.ok ()))) ∧
      ∀ (c : ClientId) (requested : Option Nat) (now : Timestamp),
        (l.serve (.check .outbound c requested now)).2 ≠ .verdict .denyError := by
  refine ⟨fun s f hvalid => ?_, ThrottleSettings.Setter.validate_callAll rfl,
    fun settings window l₀ rs hl₀ => ?_⟩
  · rw [ThrottleSettings.Setter.call_of_validate hvalid]
    cases (f.replace s).validate with
    | ok _ => exact ⟨Iff.rfl, fun _ => rfl, fun hne => absurd rfl hne⟩
    | error e => exact ⟨⟨nofun, nofun⟩, nofun, fun _ => rfl⟩
  · have hvalid := validate_serveAll (validate_of_create hl₀) rs
    refine ⟨hvalid, fun s e hs => ?_, fun s hs => ?_, fun c requested now herror => ?_⟩
    · rw [serve_configure, hs]
    · rw [serve_configure, hs]
    · exact check_outbound_ne_denyError hvalid c requested now (Request.Answer.verdict.inj herror)

/-- Settings with a limit of either kind. -/
def limitedAlike : ThrottleSettings := ⟨⟨.error, 2, 2⟩, ⟨.ignore, 0, 1⟩⟩

/-- Settings that no limiter takes over. -/
def loud : ThrottleSettings := ⟨⟨.none, 0, 0⟩, ⟨.error, 0, 1⟩⟩

/-- A client's limit above that of the destination is refused, and so are settings that answer
recipients with an error, in the middle of checks that use the limits up. -/
theorem settings_stay_valid_of_refusals :
    ((ThrottleSettings.Setter.client .inbound 3).call limitedAlike).2 ≠ .ok () ∧
      ((ThrottleSettings.Setter.client .inbound 3).call limitedAlike).1 = limitedAlike ∧
      ∃ l₀, create limitedAlike ⟨1000⟩ = .ok l₀ ∧
        let l := l₀.serveAll [.check .outbound "a" none 0, .configure loud]
        l.settings.validate = .ok () ∧
        l.serve (.configure loud) = (l, .configured (.error .outboundError)) ∧
        (l.serve (.check .outbound "a" none 0)).2 ≠ .verdict .denyError := by
  obtain ⟨hsetters, -, hrun⟩ := settings_stay_valid
  obtain ⟨-, -, hrefused⟩ := hsetters limitedAlike (.client .inbound 3) rfl
  have hne : ((ThrottleSettings.Setter.client .inbound 3).call limitedAlike).2 ≠ .ok () := by
    rintro ⟨⟩
  obtain ⟨hvalid, hrejected, -, hverdict⟩ := hrun limitedAlike ⟨1000⟩ _
    [.check .outbound "a" none 0, .configure loud] rfl
  exact ⟨hne, hrefused hne, _, rfl, hvalid, hrejected loud .outboundError rfl, hverdict "a" none 0⟩

end Limiter

end MessageBroker
