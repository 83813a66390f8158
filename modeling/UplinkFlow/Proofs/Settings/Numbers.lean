import UplinkFlow.Engine.Client
import UplinkFlow.Proofs.Except
import UplinkFlow.Proofs.Text.WholeNumber

/-!
# The numbers among the settings

* `Settings.StandsFor` — the number that a variable stands for; `numberOf_eq_ok_iff` — it is read
  exactly, unless it exceeds 64 bits.
* `Settings.KeepsDurations` — the durations are what their variables stand for.
* `Settings.numbers_kept` — **settings keep every duration, and the number of retries exactly if it
  fits 32 bits**; the client that they describe has the same numbers.
-/

set_option autoImplicit false

namespace UplinkFlow.Settings

open Engine (Client)

variable {lookup : String → Option String} {name : String} {default n m : Nat} {s : Settings}

/-- The number that a variable stands for: the one that it holds between blanks, or its default if
it is not set. -/
inductive StandsFor (lookup : String → Option String) (name : String) (default : Nat) :
    Nat → Prop where
  | unset (missing : lookup name = none) : StandsFor lookup name default default
  | given {value : String} {n : Nat} (found : lookup name = some value)
    (number : Text.Holds value n) : StandsFor lookup name default n

theorem StandsFor.inj (h : StandsFor lookup name default n) (h' : StandsFor lookup name default m) :
    n = m := by
  cases h with
  | unset missing =>
    cases h' with
    | unset => rfl
    | given found => cases missing.symm.trans found
  | given found number =>
    cases h' with
    | unset missing => cases missing.symm.trans found
    | given found' number' =>
      obtain rfl := Option.some.inj (found.symm.trans found')
      exact number.inj number'

/-- A variable is read as the number that it stands for, or refused. -/
theorem numberOf_eq_ok_iff (hdefault : default ≤ Text.maxWord) :
    numberOf lookup name default = .ok n ↔
      StandsFor lookup name default n ∧ n ≤ Text.maxWord := by
  unfold numberOf
  split
  · rename_i hmissing
    constructor
    · rintro ⟨⟩
      exact ⟨.unset hmissing, hdefault⟩
    · rintro ⟨h, -⟩
      rw [h.inj (.unset hmissing)]
  · rename_i value hfound
    rw [mapError_eq_ok_iff, Text.readWord_trim_eq_ok_iff]
    refine and_congr_left fun _ => ⟨.given hfound, fun h => ?_⟩
    cases h with
    | unset missing => cases missing.symm.trans hfound
    | given found number =>
      obtain rfl := Option.some.inj (found.symm.trans hfound)
      exact number

/-- The durations of settings are what their variables stand for. -/
structure KeepsDurations (lookup : String → Option String) (s : Settings) : Prop where
  httpTimeout : StandsFor lookup "PROVISIONER_HTTP_TIMEOUT_MS" 10000 s.httpTimeout
  retryBackoff : StandsFor lookup "PROVISIONER_RETRY_BACKOFF_MS" 250 s.retryBackoff
  lockTimeout : StandsFor lookup "PROVISIONER_LOCK_TIMEOUT_MS" 5000 s.lockTimeout

theorem ofVariables_numbers (h : ofVariables lookup = .ok s) :
    numberOf lookup "PROVISIONER_HTTP_TIMEOUT_MS" 10000 = .ok s.httpTimeout ∧
    numberOf lookup "PROVISIONER_RETRY_BACKOFF_MS" 250 = .ok s.retryBackoff ∧
    numberOf lookup "PROVISIONER_LOCK_TIMEOUT_MS" 5000 = .ok s.lockTimeout ∧
    ∃ retries, numberOf lookup "PROVISIONER_CONNECT_RETRIES" 2 = .ok retries ∧
      s.connectRetries = retries % 0x100000000 := by
  obtain ⟨engineUrl, -, h⟩ := bind_eq_ok_iff.mp h
  obtain ⟨httpTimeout, htimeout, h⟩ := bind_eq_ok_iff.mp h
  obtain ⟨retries, hretries, h⟩ := bind_eq_ok_iff.mp h
  obtain ⟨retryBackoff, hbackoff, h⟩ := bind_eq_ok_iff.mp h
  obtain ⟨idPattern, -, h⟩ := bind_eq_ok_iff.mp h
  obtain ⟨lockTimeout, hlock, h⟩ := bind_eq_ok_iff.mp h
  cases h
  exact ⟨htimeout, hbackoff, hlock, retries, hretries, rfl⟩

/-- **Settings keep every duration, and the number of retries exactly if it fits 32 bits**: of a
greater one only the lowest 32 bits are kept.  The client has the same numbers. -/
theorem numbers_kept (h : ofVariables lookup = .ok s) :
    KeepsDurations lookup s ∧
    (∃ retries < 0x10000000000000000,
      StandsFor lookup "PROVISIONER_CONNECT_RETRIES" 2 retries ∧
      s.connectRetries = retries % 0x100000000 ∧
      (StandsFor lookup "PROVISIONER_CONNECT_RETRIES" 2 s.connectRetries ↔
        retries < 0x100000000)) ∧
    (Client.ofSettings s).timeout = s.httpTimeout ∧
    (Client.ofSettings s).retries = s.connectRetries ∧
    (Client.ofSettings s).backoff = s.retryBackoff := by
  obtain ⟨htimeout, hbackoff, hlock, retries, hretries, hkept⟩ := ofVariables_numbers h
  rw [numberOf_eq_ok_iff (by decide)] at htimeout hbackoff hlock hretries
  obtain ⟨hstands, hbound⟩ := hretries
  refine ⟨⟨htimeout.1, hbackoff.1, hlock.1⟩, ⟨retries, Nat.lt_succ_of_le hbound, hstands, hkept,
    fun hsame => ?_, fun hlt => ?_⟩, rfl, rfl, rfl⟩
  · have hmod := hsame.inj hstands
    rw [hkept] at hmod
    exact hmod ▸ Nat.mod_lt _ (by decide)
  · rw [hkept, Nat.mod_eq_of_lt hlt]
    exact hstands

/-- An environment with a number of retries and, between blanks, the largest timeout. -/
def retriesEnvironment (retries : String) (name : String) : Option String :=
  if name = "PROVISIONER_CONNECT_RETRIES" then some retries
  else if name = "PROVISIONER_HTTP_TIMEOUT_MS" then some "\t18446744073709551615\n"
  else none

theorem exists_settings (retries : String) (kept : Nat)
    (h : (ofVariables (retriesEnvironment retries)).toOption.map (·.connectRetries) = some kept) :
    ∃ s, ofVariables (retriesEnvironment retries) = .ok s ∧ s.connectRetries = kept := by
  cases hs : ofVariables (retriesEnvironment retries) with
  | error fault => simp [hs, Except.toOption] at h
  | ok s => exact ⟨s, rfl, by simpa [hs, Except.toOption] using h⟩

/-- The largest numbers are kept. -/
theorem numbers_kept_largest :
    ∃ s, ofVariables (retriesEnvironment "+4294967295") = .ok s ∧
      KeepsDurations (retriesEnvironment "+4294967295") s ∧
      s.httpTimeout = 18446744073709551615 ∧ (Client.ofSettings s).retries = 4294967295 := by
  obtain ⟨s, hs, hretries⟩ := exists_settings "+4294967295" 4294967295 (by decide +kernel)
  obtain ⟨hdurations, -, -, hclient, -⟩ := numbers_kept hs
  have htimeout : numberOf (retriesEnvironment "+4294967295") "PROVISIONER_HTTP_TIMEOUT_MS" 10000 =
      .ok 18446744073709551615 := rfl
  refine ⟨s, hs, hdurations, ?_, hclient.trans hretries⟩
  exact hdurations.httpTimeout.inj ((numberOf_eq_ok_iff (by decide)).mp htimeout).1

/-- With one retry more there is none. -/
theorem retries_lost :
    ∃ s, ofVariables (retriesEnvironment "4294967296") = .ok s ∧
      StandsFor (retriesEnvironment "4294967296") "PROVISIONER_CONNECT_RETRIES" 2 4294967296 ∧
      s.connectRetries = 0 ∧
      ¬StandsFor (retriesEnvironment "4294967296") "PROVISIONER_CONNECT_RETRIES" 2
        s.connectRetries := by
  have hretries : numberOf (retriesEnvironment "4294967296") "PROVISIONER_CONNECT_RETRIES" 2 =
      .ok 4294967296 := rfl
  have hstands := ((numberOf_eq_ok_iff (by decide)).mp hretries).1
  obtain ⟨s, hs, hkept⟩ := exists_settings "4294967296" 0 (by decide +kernel)
  refine ⟨s, hs, hstands, hkept, fun h => ?_⟩
  rw [hkept] at h
  cases h.inj hstands

end UplinkFlow.Settings
