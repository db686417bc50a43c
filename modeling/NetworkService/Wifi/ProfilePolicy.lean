import Mathlib.Algebra.Ring.Nat
import NetworkService.Library.Fallible

/-!
# The Wi-Fi profile policy

`WifiProfilePolicy` reaches the supplicant through `WifiProfilePolicyOps`, `std::function` ports that
may not be set.  A port acts on a platform of any type `W` and stops with the error text that it
reports; a negative id, by which `create_profile` and `find_profile` report a failure, is such a
stop.
-/

namespace NetworkService.Wifi

open Fallible

structure WifiProfilePolicyOps (W : Type) : Type where
  ensureInterfaceUp : Option (EStateM String W Unit)
  createProfile : Option (String → String → EStateM String W ℕ)
  findProfile : Option (String → EStateM String W ℕ)
  disableAllProfiles : Option (EStateM String W Unit)
  setProfileEnabled : Option (ℕ → Bool → EStateM String W Unit)
  selectProfile : Option (ℕ → EStateM String W Unit)
  removeProfile : Option (ℕ → EStateM String W Unit)
  saveProfiles : Option (EStateM String W Unit)

variable {W : Type} (ops : WifiProfilePolicyOps W)

def portsUnavailable : String := "Wi-Fi profile platform ports are unavailable"

/-- A port whose outcome is ignored, if it is set. -/
def bestEffort (port : Option (EStateM String W Unit)) : EStateM String W Unit :=
  match port with
  | none => pure ()
  | some call => do
    let _ ← attempt call

/-- An ignored outcome stops nothing. -/
theorem bestEffort_ne_error {port : Option (EStateM String W Unit)} {w w' : W} {e : String} :
    bestEffort port w ≠ .error e w' := by
  cases port with
  | none =>
    intro h
    cases h
  | some call =>
    show (attempt call >>= fun _ => pure ()) w ≠ .error e w'
    rw [run_bind, attempt]
    cases call w with
    | ok u w'' =>
      intro h
      cases h
    | error e' w'' =>
      intro h
      cases h

/-- Isolating the profile and persisting it are best-effort. -/
def activateProfile (networkId : ℕ) (persist : Bool) : EStateM String W Unit :=
  match ops.disableAllProfiles, ops.setProfileEnabled, ops.selectProfile with
  | some disableAll, some setEnabled, some select => do
    bestEffort (some disableAll)
    setEnabled networkId true
    select networkId
    when persist (bestEffort ops.saveProfiles)
  | _, _, _ => throw portsUnavailable

/-- The transient profile is removed, and if that left no error text the removal is saved. -/
def rollBackProfile (networkId : ℕ) : EStateM String W Unit :=
  match ops.removeProfile with
  | none => pure ()
  | some remove => do
    match ← attempt (remove networkId) with
    | .ok _ => bestEffort ops.saveProfiles
    | .error rollbackError => when (rollbackError = "") (bestEffort ops.saveProfiles)

/-- `connect_new` owns the created profile until the activation succeeds. -/
def activateOrRollBack (networkId : ℕ) : EStateM String W Unit := do
  match ← attempt (activateProfile ops networkId true) with
  | .ok _ => pure ()
  | .error failure => do
    rollBackProfile ops networkId
    throw failure

def connectNew (ssid password : String) : EStateM String W Unit :=
  if ssid = "" then throw "ssid is required"
  else
    match ops.ensureInterfaceUp, ops.createProfile with
    | some ensureInterfaceUp, some createProfile => do
      ensureInterfaceUp
      let networkId ← createProfile ssid password
      activateOrRollBack ops networkId
    | _, _ => throw portsUnavailable

def connectSaved (ssid : String) : EStateM String W Unit :=
  if ssid = "" then throw "ssid is required"
  else
    match ops.ensureInterfaceUp, ops.findProfile with
    | some ensureInterfaceUp, some findProfile => do
      ensureInterfaceUp
      let networkId ← findProfile ssid
      activateProfile ops networkId false
    | _, _ => throw portsUnavailable

def forget (ssid : String) : EStateM String W Unit :=
  if ssid = "" then throw "ssid is required"
  else
    match ops.findProfile, ops.removeProfile, ops.saveProfiles with
    | some findProfile, some remove, some save => do
      let networkId ← findProfile ssid
      remove networkId
      save
    | _, _, _ => throw portsUnavailable

def setAutoconnect (ssid : String) (enabled : Bool) : EStateM String W Unit :=
  if ssid = "" then throw "ssid is required"
  else
    match ops.findProfile, ops.setProfileEnabled, ops.saveProfiles with
    | some findProfile, some setEnabled, some save => do
      let networkId ← findProfile ssid
      setEnabled networkId enabled
      save
    | _, _, _ => throw portsUnavailable

end NetworkService.Wifi
