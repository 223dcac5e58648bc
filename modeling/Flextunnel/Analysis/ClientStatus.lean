import Flextunnel.Analysis.RouteAgreement
import Flextunnel.Model.ClientSteps

/-!
# What a client shows and what it uses

The manager of a client writes four things one after another: the routes it shows, the reconnect
status, the policy and the connection. `Fits` says what each of them is at each point of the
manager, for as long as it runs. When the run begins the slot may still hold a connection of an
earlier one; it is cleared before the first attempt.
-/

set_option autoImplicit false

namespace Flextunnel.Analysis

open Lib Model

section

variable {ctx : ClientCtx} {log es : List ClientEvent} {s t : Client} {conn : Nat}
  {routedSet : RoutedSet}

/-! ## The manager -/

/-- Nothing is connected, and nothing says so. -/
def Down (s : Client) : Prop := s.current = none ∧ s.routes.connected = false

/-- The handshake on the connection was accepted with these rules, what is shown is what it
pushed, and no failure is. -/
def Shown (log : List ClientEvent) (s : Client) (conn : Nat) (routedSet : RoutedSet) : Prop :=
  ∃ response, ClientEvent.accepted conn response routedSet ∈ log ∧
    s.routes = ⟨true, response.routes⟩ ∧ s.reconnect = {}

/-- What the slots and the status are, by where the manager is, and by whether it has cleared the
slots. -/
def Fits (cleared : Prop) (log : List ClientEvent) (s : Client) : ManagerPc → Prop
  | .ended none => True
  | .top => cleared → Down s
  | .repair | .connecting | .handshaking _ | .waiting _ | .sleeping .. | .parked
  | .ended (some _) => Down s
  | .publishing conn routedSet => s.current = none ∧ Shown log s conn routedSet
  | .announcing conn =>
    s.current = none ∧ ∃ routedSet, s.policy = some routedSet ∧ Shown log s conn routedSet
  | .maintaining conn =>
    s.current = some conn ∧ ∃ routedSet, s.policy = some routedSet ∧ Shown log s conn routedSet

theorem Shown.append (h : Shown log s conn routedSet) : Shown (log ++ es) s conn routedSet := by
  obtain ⟨response, hmem, hrest⟩ := h
  exact ⟨response, List.mem_append_left _ hmem, hrest⟩

theorem Fits.append {cleared cleared' : Prop} {pc : ManagerPc} (h : Fits cleared log s pc)
    (hcleared : cleared' → cleared) : Fits cleared' (log ++ es) s pc := by
  cases pc with
  | top => exact fun h' => h (hcleared h')
  | publishing => exact ⟨h.1, h.2.append⟩
  | announcing | maintaining =>
    obtain ⟨hcurrent, routedSet, hpolicy, hshown⟩ := h
    exact ⟨hcurrent, routedSet, hpolicy, hshown.append⟩
  | ended error => cases error <;> exact h
  | _ => exact h

/-- A handshake shows what an accepted response pushed, and otherwise leaves alone what is shown. -/
theorem handshake_routes (s : Client) (bytes : List UInt8) :
    (s.handshake ctx bytes).1.routes =
      match (s.handshake ctx bytes).2 with
      | .ok (response, _) => ⟨true, response.routes⟩
      | .error _ => s.routes := by
  unfold Client.handshake
  split
  · rfl
  dsimp only
  split
  · rfl
  · split
    · rfl
    · split <;> rfl

/-- A failed attempt and a lost connection leave nothing behind. -/
theorem down_of_failsWith {cleared : Prop} {l : ManagerLabel} {u : Client} {e : ProxyError}
    {jitterMs : Nat} (hfits : Fits cleared log s s.pc) (h : FailsWith ctx s l u e jitterMs) :
    Down u := by
  cases h with
  | addr hpc | connect hpc | brokenOff hpc =>
    rw [hpc] at hfits
    exact hfits
  | maintained => exact ⟨rfl, rfl⟩
  | @response _ bytes _ _ hpc hshake =>
    rw [hpc] at hfits
    obtain ⟨tracker, duplicateServer, routes, hframe⟩ := s.handshake_cases ctx bytes
    have hroutes : (s.handshake ctx bytes).1.routes = s.routes := by
      rw [handshake_routes, hshake]
    refine ⟨?_, hroutes ▸ hfits.2⟩
    rw [hframe]
    exact hfits.1

/-- A step of the manager: it comes back to the top of its loop only from a wait, with nothing
connected. -/
theorem fits_manager {cleared cleared' : Prop} {l : ManagerLabel} (hfits : Fits cleared log s s.pc)
    (h : ManagerStep ctx s l t es) : Fits cleared' (log ++ es) t t.pc := by
  -- what the manager finds at the point where its move begins
  have hat {pc : ManagerPc} (hpc : s.pc = pc) : Fits cleared log s pc := hpc ▸ hfits
  cases h with
  | clear => exact ⟨rfl, rfl⟩
  | rebuild hpc | nudge hpc | connected hpc | pathLost hpc => exact hat hpc
  | @failed _ u _ e jitterMs _ hfail _ hresult =>
    obtain ⟨attempt, pc, reconnect, hframe, hend⟩ := u.handleFailure_cases ctx e jitterMs
    rw [hresult] at hframe hend
    cases hframe
    have hdown := down_of_failsWith hfits hfail
    rcases hend with ⟨rfl, -⟩ | ⟨⟨backoff, rfl⟩, -⟩ <;> exact hdown
  | @accepted conn _ bytes response routedSet hpc hshake =>
    obtain ⟨tracker, duplicateServer, routes, hframe⟩ := s.handshake_cases ctx bytes
    have hroutes : (s.handshake ctx bytes).1.routes = ⟨true, response.routes⟩ := by
      rw [handshake_routes, hshake]
    refine ⟨?_, response, by simp, hroutes, rfl⟩
    have hcurrent : s.current = none := (hat hpc).1
    rw [hframe]
    exact hcurrent
  | publishPolicy hpc =>
    obtain ⟨hcurrent, hshown⟩ := hat hpc
    exact ⟨hcurrent, _, rfl, hshown.append⟩
  | publishConn hpc =>
    obtain ⟨-, routedSet, hpolicy, hshown⟩ := hat hpc
    exact ⟨rfl, routedSet, hpolicy, hshown.append⟩
  | beginWait hpc =>
    have hdown : Down s := hat hpc
    dsimp only
    split <;> exact hdown
  | returned => trivial
  | timer hpc | foregrounded hpc | pathReturned hpc =>
    have hdown : Down s := hat hpc
    exact fun _ => hdown

/-- A step of the client keeps slots and status at what they should be. -/
theorem fits_step {ls : List ClientLabel} {l : ClientLabel}
    (hfits : Fits (.manager .clear ∈ ls) log s s.pc) (h : s.step ctx l = some (t, es)) :
    Fits (.manager .clear ∈ ls ++ [l]) (log ++ es) t t.pc := by
  cases clientStep_of_step h with
  | manager h => exact fits_manager hfits h
  | aside _ _ _ _ _ hl =>
    have hold : Fits (.manager .clear ∈ ls ++ [l]) (log ++ es) s s.pc := by
      refine hfits.append fun hclear => ?_
      exact (List.mem_append.1 hclear).resolve_right (by simpa using (hl _).symm)
    revert hold
    dsimp only
    cases s.pc <;> exact id
  | aborted => trivial

/-- The slots and the status fit the place of the manager in every run. -/
theorem fits_of_run {s₀ : Client} {ls : List ClientLabel} (hinit : (proxyClient ctx).init s₀)
    (hrun : (proxyClient ctx).run s₀ ls = some (s, log)) :
    Fits (.manager .clear ∈ ls) log s s.pc := by
  refine (proxyClient ctx).labels_rule (P := fun ls log s => Fits (.manager .clear ∈ ls) log s s.pc)
    (fun _ _ _ _ _ _ => fits_step) ?_ hrun
  rw [hinit.1]
  simp [Fits]

/-- The manager is between an accepted handshake and the end of the connection. -/
def handshaken : ManagerPc → Bool
  | .publishing .. | .announcing _ | .maintaining _ => true
  | _ => false

/-- **What a client shows and what it uses belong to one handshake.** In every run that goes on,
once the slots were cleared: routes are shown as connected exactly from the accepted handshake to
the end of its connection; the connection slot is filled exactly while the manager maintains it; and
then policy and routes shown are what that handshake pushed, with a clean reconnect status. -/
theorem status_coherent {s₀ : Client} {ls : List ClientLabel} (hinit : (proxyClient ctx).init s₀)
    (hrun : (proxyClient ctx).run s₀ ls = some (s, log)) (hrunning : s.isRunning = true)
    (hcleared : .manager .clear ∈ ls) :
    (s.routes.connected = true ↔ handshaken s.pc = true) ∧
    (∀ conn, s.current = some conn ↔ s.pc = .maintaining conn) ∧
    ∀ conn, s.current = some conn → ∃ response routedSet,
      .accepted conn response routedSet ∈ log ∧ s.policy = some routedSet ∧
        s.routes = ⟨true, response.routes⟩ ∧ s.reconnect = {} := by
  have hfits := fits_of_run hinit hrun
  cases hpc : s.pc with
  | top =>
    rw [hpc] at hfits
    obtain ⟨hcurrent, hroutes⟩ := hfits hcleared
    simp [hcurrent, hroutes, handshaken]
  | ended error => simp [Client.isRunning, hpc] at hrunning
  | publishing conn routedSet =>
    rw [hpc] at hfits
    obtain ⟨hcurrent, response, -, hroutes, -⟩ := hfits
    simp [hcurrent, hroutes, handshaken]
  | announcing conn =>
    rw [hpc] at hfits
    obtain ⟨hcurrent, routedSet, -, response, -, hroutes, -⟩ := hfits
    simp [hcurrent, hroutes, handshaken]
  | maintaining conn =>
    rw [hpc] at hfits
    obtain ⟨hcurrent, routedSet, hpolicy, response, hmem, hroutes, hclean⟩ := hfits
    refine ⟨by simp [hroutes, handshaken], by simp [hcurrent], ?_⟩
    rintro conn' hconn
    cases hcurrent.symm.trans hconn
    exact ⟨response, routedSet, hmem, hpolicy, hroutes, hclean⟩
  | _ => simp_all [Fits, Down, handshaken]

end

/-- A connection comes up over the slot of an earlier run. -/
def broughtUp : List ClientLabel :=
  [.manager .clear, .manager .repair, .manager (.connect (.ok ()) 0),
    .manager (.response [0, 0, 0, 1, 0] 0), .manager .publishPolicy, .manager .publishConn]

theorem status_coherent_up :
    ∃ s log, (proxyClient (plainClient tenResponse tenNetwork)).run (startedClient (some 0))
        broughtUp = some (s, log) ∧ s.current = some 1 ∧
      ∃ response routedSet, ClientEvent.accepted 1 response routedSet ∈ log ∧
        s.policy = some routedSet ∧ s.routes = ⟨true, response.routes⟩ ∧ s.reconnect = {} := by
  refine ⟨_, _, rfl, rfl, ?_⟩
  have hinit : (proxyClient (plainClient tenResponse tenNetwork)).init (startedClient (some 0)) :=
    ⟨rfl, rfl, rfl, rfl, rfl, rfl⟩
  have hrun : (proxyClient (plainClient tenResponse tenNetwork)).run (startedClient (some 0))
      broughtUp = some (_, _) := rfl
  exact (status_coherent hinit hrun rfl (by simp [broughtUp])).2.2 1 rfl

end Flextunnel.Analysis
