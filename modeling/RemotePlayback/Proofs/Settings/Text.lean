import RemotePlayback.Proofs.Toml.RoundTrip
import RemotePlayback.Settings.Basic

/-! Settings are read back from their text.

Each section is read back on its own: under each of its keys the reader finds the value that was
written there, and where none was written, because nothing is set, its default is that nothing is
set. The integers of a text have 64 bits, so the settings that were read from one can be written. -/

namespace RemotePlayback

open Toml Toml.Value

namespace Toml.Value

/-- An integer of 64 bits is read as itself, if it is within the bounds. -/
theorem integerWithin?_ofInt {n low high : Int} (fits : (Plain.integer n).Fits) (above : low ≤ n)
    (below : n ≤ high) : integerWithin? low high (.integer (Int64.ofInt n)) = some n := by
  have same : (Int64.ofInt n).toInt = n :=
    Int64.toInt_ofInt_of_le fits.1 (Int.lt_of_le_sub_one fits.2)
  rw [integerWithin?, same, if_pos ⟨above, below⟩]

/-! ## Fields -/

section

variable {α : Type} {pairs : List (String × Option Plain)}
  (distinct : (pairs.map (·.1)).Nodup) (key : String)

include distinct

theorem field?_of_mem {v : Plain} (mem : (key, some v) ∈ pairs) (default : α)
    (read : Value → Option α) :
    field? (Entries.ofList (values pairs)) key default read = read v.value := by
  rw [field?, find?_values distinct mem]
  rfl

theorem field?_text {s : String} (mem : (key, some (.string s)) ∈ pairs) (default : String) :
    field? (Entries.ofList (values pairs)) key default text? = some s :=
  field?_of_mem distinct key mem default text?

theorem field?_bool {b : Bool} (mem : (key, some (.bool b)) ∈ pairs) (default : Bool) :
    field? (Entries.ofList (values pairs)) key default bool? = some b :=
  field?_of_mem distinct key mem default bool?

/-- A text that need not be there. -/
theorem field?_optional {o : Option String} (mem : (key, o.map .string) ∈ pairs) :
    field? (Entries.ofList (values pairs)) key none presentText? = some o := by
  rw [field?, find?_values distinct mem]
  cases o <;> rfl

theorem field?_seconds {n : Nat} (mem : (key, some (.integer n)) ∈ pairs) (fits : n < 2 ^ 63)
    (default : Nat) : field? (Entries.ofList (values pairs)) key default seconds? = some n := by
  have within : (Plain.integer n).Fits := ⟨by omega, by omega⟩
  rw [field?_of_mem distinct key mem, Plain.value, seconds?,
    integerWithin?_ofInt within (by omega) (by omega)]
  rfl

end

end Toml.Value

/-! ## Sections -/

theorem Device.Settings.ofToml?_pairs (s : Device.Settings) :
    ofToml? (tableOf s.pairs) = some s := by
  have distinct : (s.pairs.map (·.1)).Nodup := by simp [pairs]
  have name := field?_text distinct "name" (s := s.name) (by simp [pairs])
  have kind (d : Kind) :
      field? (Entries.ofList (values s.pairs)) "device_type" d Kind.ofToml? = some s.kind :=
    (field?_of_mem distinct _ (v := .string s.kind.name) (by simp [pairs]) d _).trans
      (Kind.ofName?_name s.kind)
  have id := field?_optional distinct "device_id" (o := s.id) (by simp [pairs])
  have steps (d : Int32) : field? (Entries.ofList (values s.pairs)) "volume_steps" d
      (fun v => (v.integerWithin? (-2 ^ 31) (2 ^ 31 - 1)).map Int32.ofInt) =
        some s.volumeSteps := by
    have low := s.volumeSteps.le_toInt
    have high := s.volumeSteps.toInt_lt
    have written := integerWithin?_ofInt (n := s.volumeSteps.toInt) ⟨by omega, by omega⟩ low
      (Int.le_sub_one_of_lt high)
    rw [field?_of_mem distinct _ (v := .integer s.volumeSteps.toInt) (by simp [pairs]), Plain.value,
      written, Option.map_some, Int32.ofInt_toInt]
  simp only [ofToml?, tableOf, fields?, Option.bind_eq_bind, Option.bind_some, name, kind, id,
    steps]
  rfl

theorem SessionSettings.ofToml?_pairs {s : SessionSettings} (delay : s.reconnectDelaySecs < 2 ^ 63)
    (interval : s.pingIntervalSecs < 2 ^ 63) : ofToml? (tableOf s.pairs) = some s := by
  have distinct : (s.pairs.map (·.1)).Nodup := by simp [pairs]
  have dealerUrl := field?_text distinct "dealer_url" (s := s.dealerUrl) (by simp [pairs])
  have backendUrl := field?_text distinct "spclient_url" (s := s.backendUrl) (by simp [pairs])
  have directoryUrl := field?_text distinct "apresolve_url" (s := s.directoryUrl) (by simp [pairs])
  have resolves := field?_bool distinct "resolve_endpoints" (b := s.resolveEndpoints)
    (by simp [pairs])
  have delay := field?_seconds distinct "reconnect_delay_secs" (by simp [pairs]) delay
  have interval := field?_seconds distinct "ping_interval_secs" (by simp [pairs]) interval
  have userId := field?_optional distinct "user_id" (o := s.userId) (by simp [pairs])
  simp only [ofToml?, tableOf, fields?, Option.bind_eq_bind, Option.bind_some, dealerUrl,
    backendUrl, directoryUrl, resolves, delay, interval, userId]
  rfl

theorem AuthSettings.ofToml?_pairs (s : AuthSettings) : ofToml? (tableOf s.pairs) = some s := by
  have distinct : (s.pairs.map (·.1)).Nodup := by simp [pairs]
  have token := field?_optional distinct "access_token" (o := s.accessToken) (by simp [pairs])
  simp only [ofToml?, tableOf, fields?, Option.bind_eq_bind, Option.bind_some, token]
  rfl

theorem HttpSettings.ofToml?_pairs (s : HttpSettings) : ofToml? (tableOf s.pairs) = some s := by
  have distinct : (s.pairs.map (·.1)).Nodup := by simp [pairs]
  have enabled := field?_bool distinct "enabled" (b := s.enabled) (by simp [pairs])
  have address := field?_text distinct "bind_address" (s := s.bindAddress) (by simp [pairs])
  have port (d : UInt16) : field? (Entries.ofList (values s.pairs)) "port" d
      (fun v => (v.integerWithin? 0 (2 ^ 16 - 1)).map fun n => UInt16.ofNat n.toNat) =
        some s.port := by
    have high := s.port.toNat_lt
    have written : integerWithin? 0 (2 ^ 16 - 1) (.integer (Int64.ofInt s.port.toNat)) =
        some (s.port.toNat : Int) :=
      integerWithin?_ofInt ⟨by omega, by omega⟩ (by omega) (by omega)
    rw [field?_of_mem distinct _ (v := .integer s.port.toNat) (by simp [pairs]), Plain.value,
      written, Option.map_some, Int.toNat_natCast, UInt16.ofNat_toNat]
  simp only [ofToml?, tableOf, fields?, Option.bind_eq_bind, Option.bind_some, enabled, address,
    port]
  rfl

/-! ## All settings -/

namespace Settings

variable {s : Settings}

/-- The settings that a text can hold: its integers have 64 bits. -/
structure Fits (s : Settings) : Prop where
  delay : s.session.reconnectDelaySecs < 2 ^ 63
  interval : s.session.pingIntervalSecs < 2 ^ 63

theorem fits_default : ({} : Settings).Fits := ⟨by decide, by decide⟩

theorem fits_sections (fits : s.Fits) : ∀ t ∈ s.sections, ∀ p ∈ t.2, ∀ v ∈ p.2, v.Fits := by
  have low := s.device.volumeSteps.le_toInt
  have high := s.device.volumeSteps.toInt_lt
  have port := s.http.port.toNat_lt
  obtain ⟨delay, interval⟩ := fits
  have steps : (Plain.integer s.device.volumeSteps.toInt).Fits := ⟨by omega, by omega⟩
  have delay : (Plain.integer s.session.reconnectDelaySecs).Fits := ⟨by omega, by omega⟩
  have interval : (Plain.integer s.session.pingIntervalSecs).Fits := ⟨by omega, by omega⟩
  have port : (Plain.integer s.http.port.toNat).Fits := ⟨by omega, by omega⟩
  simp only [sections, Device.Settings.pairs, SessionSettings.pairs, AuthSettings.pairs,
    HttpSettings.pairs, List.forall_mem_cons]
  simp [steps, delay, interval, port]

theorem writable_sections (fits : s.Fits) : Writable s.sections where
  bareNames := by simp [sections, isBareKey_iff, isBare]
  bareKeys := by
    simp only [sections, Device.Settings.pairs, SessionSettings.pairs, AuthSettings.pairs,
      HttpSettings.pairs, List.forall_mem_cons]
    simp [isBareKey_iff, isBare]
  fits := fits_sections fits
  names := by simp [sections]
  keys := by simp [sections, Device.Settings.pairs, SessionSettings.pairs, AuthSettings.pairs,
    HttpSettings.pairs]

theorem ofToml?_sections (fits : s.Fits) :
    ofToml? (.table (Entries.ofList (s.sections.map fun t => (t.1, tableOf t.2)))) = some s := by
  have device := Device.Settings.ofToml?_pairs s.device
  have session := SessionSettings.ofToml?_pairs fits.delay fits.interval
  have auth := AuthSettings.ofToml?_pairs s.auth
  have http := HttpSettings.ofToml?_pairs s.http
  have distinct : ((s.sections.map fun t => (t.1, tableOf t.2)).map (·.1)).Nodup := by
    simp [sections]
  simp only [ofToml?, fields?, Option.bind_eq_bind, Option.bind_some, field?,
    Entries.find?_ofList distinct]
  simp [sections, Entries.find?, device, session, auth, http]

/-- **Settings are read back from their text**, if it can hold them. -/
theorem read?_text (fits : s.Fits) : read? s.text = some s := by
  rw [read?, text, read?_write (writable_sections fits), Option.bind_some, ofToml?_sections fits]

/-! ## What texts hold -/

theorem seconds?_lt {v : Value} {n : Nat} (read : seconds? v = some n) : n < 2 ^ 63 := by
  rw [seconds?, Option.map_eq_some_iff] at read
  obtain ⟨m, within, rfl⟩ := read
  cases v with
  | integer i =>
    have bound := i.toInt_lt
    rw [integerWithin?] at within
    split at within
    · cases within
      omega
    · cases within
  | _ => cases within

theorem field?_seconds_lt {fields : List (String × Value)} {key : String} {default n : Nat}
    (small : default < 2 ^ 63) (read : field? fields key default seconds? = some n) :
    n < 2 ^ 63 := by
  rw [field?] at read
  split at read
  · exact seconds?_lt read
  · cases read
    exact small

theorem fits_of_ofToml? {v : Value} (read : ofToml? v = some s) : s.Fits := by
  simp only [ofToml?, Option.bind_eq_bind, Option.bind_eq_some_iff] at read
  obtain ⟨fields, -, device, -, session, found, auth, -, http, -, eq⟩ := read
  cases eq
  rw [field?] at found
  split at found
  · simp only [SessionSettings.ofToml?, Option.bind_eq_bind, Option.bind_eq_some_iff] at found
    obtain ⟨_, -, _, -, _, -, _, -, _, -, delay, first, interval, second, _, -, eq⟩ := found
    cases eq
    exact ⟨field?_seconds_lt fits_default.delay first,
      field?_seconds_lt fits_default.interval second⟩
  · cases found
    exact ⟨fits_default.delay, fits_default.interval⟩

/-- **Settings that were read can be written.** -/
theorem fits_of_read? {text : String} (read : read? text = some s) : s.Fits := by
  obtain ⟨v, -, read⟩ := Option.bind_eq_some_iff.mp read
  exact fits_of_ofToml? read

end Settings

end RemotePlayback
