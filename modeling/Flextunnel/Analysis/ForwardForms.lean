import Flextunnel.Model.AppSteps

/-!
# The forward form

The forward form remembers the profile it was opened for and, if it edits a forward, the id of that
forward; what is typed never changes either.
-/

set_option autoImplicit false

namespace Flextunnel.Analysis

open Lib Model

variable {ctx : AppContext} {env : Surroundings} {a b : App} {msg : Message}

/-- The forward form that is open after `a` edits the forward it edited before, or a forward of the
profile it is opened for. -/
def ForwardFormFrom (a : App) (form : Option (String × ForwardForm)) : Prop :=
  ∀ profileId f id, form = some (profileId, f) → f.editingId = some id →
    (∃ f₀, a.forwardForm = some (profileId, f₀) ∧ f₀.editingId = some id) ∨
      ∃ p, a.profile profileId = some p ∧ ∃ forward ∈ p.forwards, forward.id = id

@[simp] theorem forwardForm_persistStore (a : App) :
    (a.persistStore ctx env).forwardForm = a.forwardForm := by
  unfold App.persistStore
  split
  · rfl
  · dsimp only
    split <;> rfl

@[simp] theorem forwardForm_call (a : App) (c : ControllerCall) :
    (a.call c).forwardForm = a.forwardForm := rfl

@[simp] theorem forwardForm_orNotice (a : App) (text : String) :
    (a.orNotice text).forwardForm = a.forwardForm := by
  unfold App.orNotice
  split <;> rfl

@[simp] theorem forwardForm_sendForwards (a : App) (ids : List String) :
    (a.sendForwards ids).forwardForm = a.forwardForm := by
  unfold App.sendForwards
  induction ids generalizing a with
  | nil => rfl
  | cons id ids ih =>
    rw [List.foldl_cons, ih]
    split <;> rfl

@[simp] theorem forwardForm_resumeServer (a : App) :
    (a.resumeServer env).forwardForm = a.forwardForm := by
  unfold App.resumeServer
  dsimp only
  split
  · split <;> rfl
  · rfl

@[simp] theorem forwardForm_withForwards (a : App) (profileId : String)
    (f : List PortForward → List PortForward) :
    (a.withForwards profileId f).forwardForm = a.forwardForm := by
  unfold App.withForwards
  split <;> rfl

@[simp] theorem forwardForm_commitForwards (a : App) (profileId : String) :
    (a.commitForwards ctx env profileId).forwardForm = a.forwardForm := by
  unfold App.commitForwards
  dsimp only
  split <;> simp

/-- An operation leaves the form alone or closes it. -/
def FormKept (a b : App) : Prop := b.forwardForm = a.forwardForm ∨ b.forwardForm = none

theorem formKept_setServerEnabled (a : App) (enabled : Bool) :
    FormKept a (a.setServerEnabled ctx env enabled) := by
  unfold App.setServerEnabled App.applyEnabled
  dsimp only
  (repeat' split) <;> simp [FormKept, App.closeForms]

theorem formKept_handleMenuEvent (a : App) (item : TrayItem) :
    FormKept a (a.handleMenuEvent ctx env item) := by
  cases item with
  | quit | other => exact .inl rfl
  | setUpServer =>
    unfold App.handleMenuEvent App.setUpServer
    dsimp only
    split <;> simp [FormKept, App.closeForms]
  | toggleServer =>
    unfold App.handleMenuEvent
    dsimp only
    split
    · exact formKept_setServerEnabled a _
    · exact .inl rfl

theorem formKept_createKeyForProfileForm (h : a.createKeyForProfileForm ctx env = .ok b) :
    FormKept a b := by
  unfold App.createKeyForProfileForm at h
  dsimp only at h
  (repeat' split at h) <;> cases h <;> simp [FormKept, App.noteEdited, App.onProfileForm]

theorem formKept_importProfiles {path : String} (h : a.importProfiles ctx env path = .ok b) :
    FormKept a b := by
  unfold App.importProfiles at h
  split at h
  · cases h
    exact .inl rfl
  obtain ⟨m, hm, h⟩ := bind_eq_ok.1 h
  cases h
  refine .inl ?_
  dsimp only
  split <;> simp

/-- A form that was kept was open before. -/
theorem ForwardFormFrom.kept (h : FormKept a b) : ForwardFormFrom a b.forwardForm := by
  intro profileId f id hf hid
  rcases h with h | h
  · exact .inl ⟨f, h ▸ hf, hid⟩
  · rw [h] at hf
    cases hf

/-- What is typed changes neither the profile nor the forward of the form. -/
theorem ForwardFormFrom.changed {g : ForwardForm → ForwardForm}
    (hg : ∀ f, (g f).editingId = f.editingId) :
    ForwardFormFrom a (a.onForwardForm g).forwardForm := by
  intro profileId f id hf hid
  obtain ⟨⟨profileId', f₀⟩, hf₀, ⟨⟩⟩ := Option.map_eq_some_iff.1 hf
  rw [hg] at hid
  exact .inl ⟨f₀, hf₀, hid⟩

/-- **Where an open forward form comes from**: it was open before, or was opened for a forward of
its profile. -/
theorem update_forwardForm (h : a.update ctx env msg = .ok b) :
    ForwardFormFrom a b.forwardForm := by
  cases msg with
  | trayMenu item =>
    cases h
    exact .kept (formKept_handleMenuEvent a item)
  | setServerEnabled enabled =>
    cases h
    exact .kept (formKept_setServerEnabled a enabled)
  | storeResetContinue =>
    cases h
    exact .kept (.inl (forwardForm_persistStore _))
  | importPicked path =>
    cases path with
    | none =>
      cases h
      exact .kept (.inl rfl)
    | some path => exact .kept (formKept_importProfiles h)
  | newKeyCreate => exact .kept (formKept_createKeyForProfileForm h)
  | keyGenerateSecret =>
    simp only [App.update] at h
    split at h <;> cases h <;> exact .kept (.inl rfl)
  | addForward profileId =>
    cases h
    intro profileId' f id hf hid
    cases hf
    cases hid
  | editForward profileId forwardId =>
    cases h
    split
    next forward hforward =>
      intro profileId' f id hf hid
      cases hf
      cases hid
      obtain ⟨p, hp, hforward⟩ := Option.bind_eq_some_iff.1 hforward
      exact .inr ⟨p, hp, forward, List.mem_of_find?_eq_some hforward, rfl⟩
    · exact .kept (.inl rfl)
  | formLabelChanged | formLocalPortChanged | formRemoteHostChanged | formRemotePortChanged
  | formEnabledToggled =>
    cases h
    exact .changed fun _ => rfl
  | tick | setupTray | deleteProfile | connect | deleteKey | exportKey | keyFormSave
  | profileFormSave | deleteForward | toggleForward | formSave | setUpServer | deleteServer
  | restartServer | serverFormSave | clientFormSave | removeClient | exportServerSecret
  | identityFormSave =>
    -- an operation closes the form or leaves it alone
    cases h
    refine .kept ?_
    simp only [App.refresh, App.deleteProfile, App.connectProfile, App.deleteKey, App.exportKey,
      App.saveKeyForm, App.saveProfileForm, App.deleteForward, App.toggleForward,
      App.saveForwardForm, App.setUpServer, App.deleteServer, App.restartServer,
      App.saveServerForm, App.saveClientForm, App.removeClient, App.applyRevocation,
      App.exportServerSecret, App.saveIdentityForm]
    (repeat' split) <;> simp [FormKept, App.switchedOff, App.polled, App.noteDeleted,
      App.noteEdited, App.closeForms]
  | showConnPath | editKey | clientUseOwnKey | exportPicked =>
    cases h
    split <;> exact .kept (.inl rfl)
  | editProfile | beginServerSetup | editServer =>
    cases h
    dsimp only
    split
    · exact .kept (.inr rfl)
    · exact .kept (.inl rfl)
  | select | addProfile | formCancel =>
    cases h
    exact .kept (.inr rfl)
  | _ =>
    -- the rest is about other forms
    cases h
    exact .kept (.inl rfl)

end Flextunnel.Analysis
