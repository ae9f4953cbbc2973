import RemotePlayback.Proofs.Settings.Text
import RemotePlayback.Settings.File

/-! The settings file is stable after one load.

A load either leaves the file alone or replaces it by the text of the settings it gives. In both
cases the file holds these settings afterwards, with an id among them, so every later load gives
them again and has no reason to write. -/

namespace RemotePlayback.Settings

variable {file : Option Bytes} {s base : Settings} {id : String}

/-! ## What a file holds -/

/-- The settings that a file holds, before any id is given: the defaults if there is no file. -/
def saved? (file : Option Bytes) : Option Settings :=
  (contents? file).bind fun
    | none => some {}
    | some text => read? text

theorem fits_of_saved? (saved : saved? file = some s) : s.Fits := by
  obtain ⟨text, -, read⟩ := Option.bind_eq_some_iff.mp saved
  cases text with
  | none =>
    cases read
    exact fits_default
  | some text => exact fits_of_read? read

/-- Settings that were written are held. -/
theorem saved?_text (fits : s.Fits) : saved? (some (Bytes.ofText s.text)) = some s := by
  rw [saved?, contents?, Bytes.toText?_ofText, Option.map_some, Option.bind_some]
  exact read?_text fits

/-! ## Loading -/

/-- **A load as it is meant**: what the file holds, and an id if there is none. -/
theorem load_eq (file : Option Bytes) (id : String) : load file id =
    match saved? file with
    | none => (none, file)
    | some base =>
      if base.hasId then (some base, file)
      else (some (base.withId id), some (Bytes.ofText (base.withId id).text)) := by
  cases file with
  | none => rfl
  | some bytes =>
    rw [load, saved?, contents?]
    cases isText : Bytes.toText? bytes with
    | none => rfl
    | some text =>
      have bytes := Bytes.ofText_of_toText? isText
      simp only [Option.map_some, Option.bind_some, load?]
      cases read? text with
      | none => rfl
      | some base =>
        by_cases named : base.hasId
        · simp [named, bytes]
        · simp [named]

theorem hasId_withId (real : id ≠ "") : (base.withId id).hasId = true := by
  simpa [hasId, withId] using real

theorem idOfBytes_ne_empty {random : Bytes} (some : random ≠ []) : idOfBytes random ≠ "" := by
  obtain ⟨b, rest, rfl⟩ := List.exists_cons_of_ne_nil some
  simp [idOfBytes]

theorem load_of_unreadable (saved : saved? file = none) (id : String) :
    load file id = (none, file) := by
  rw [load_eq, saved]

/-- Settings with an id are given as often as they are loaded. -/
theorem load_of_hasId (saved : saved? file = some s) (named : s.hasId = true) (id : String) :
    load file id = (some s, file) := by
  rw [load_eq, saved]
  exact if_pos named

theorem load_of_nameless (saved : saved? file = some s) (nameless : s.hasId = false) (id : String) :
    load file id = (some (s.withId id), some (Bytes.ofText (s.withId id).text)) := by
  rw [load_eq, saved]
  exact if_neg (by simp [nameless])

/-- **One load settles the file.** If it fails, the file stays as it is. Otherwise every later load
gives the same settings and leaves the file as the first one left it; the first one leaves it alone
if it names a device id, and else it gives what the file held, with a fresh id, and makes the file
hold that. -/
theorem load_settles (file : Option Bytes) {random : Bytes} (fresh : random.length = 20) :
    (∀ after, load file (idOfBytes random) = (none, after) → after = file) ∧
    ∀ s after, load file (idOfBytes random) = (some s, after) →
      (∀ other, load after (idOfBytes other) = (some s, after)) ∧
      ∃ base, saved? file = some base ∧
        (base.hasId = true → s = base ∧ after = file) ∧
        (base.hasId = false → s = base.withId (idOfBytes random) ∧ saved? after = some s) := by
  have real : idOfBytes random ≠ "" := by
    refine idOfBytes_ne_empty ?_
    rintro rfl
    cases fresh
  cases saved : saved? file with
  | none =>
    rw [load_of_unreadable saved]
    refine ⟨fun after loaded => ?_, fun s after loaded => ?_⟩
    · exact (congrArg Prod.snd loaded).symm
    · cases loaded
  | some base =>
    cases named : base.hasId with
    | true =>
      rw [load_of_hasId saved named]
      refine ⟨fun after loaded => ?_, fun s after loaded => ?_⟩
      · cases loaded
      · cases loaded
        refine ⟨fun other => load_of_hasId saved named _, base, rfl, fun _ => ⟨rfl, rfl⟩, ?_⟩
        intro nameless
        cases named.symm.trans nameless
    | false =>
      have fits : (base.withId (idOfBytes random)).Fits := by
        obtain ⟨delay, interval⟩ := fits_of_saved? saved
        exact ⟨delay, interval⟩
      have kept := saved?_text fits
      rw [load_of_nameless saved named]
      refine ⟨fun after loaded => ?_, fun s after loaded => ?_⟩
      · cases loaded
      · cases loaded
        refine ⟨fun other => load_of_hasId kept (hasId_withId real) _, base, rfl, ?_, ?_⟩
        · intro named'
          cases named.symm.trans named'
        · exact fun _ => ⟨rfl, kept⟩

/-- A file without an id, whose device has a name with quotes and a line break. -/
theorem awkward_name_is_kept :
    let file := Bytes.ofText "[device]\nname = \"it's \\\"loud\\\"\\n\"\n"
    let random : Bytes := List.replicate 20 171
    random.length = 20 ∧ ∃ s after, load (some file) (idOfBytes random) = (some s, after) ∧
      after ≠ some file ∧ s.device.name = "it's \"loud\"\n" ∧
      load after (idOfBytes []) = (some s, after) ∧ saved? after = some s := by
  intro file random
  have saved : saved? (some file) = some { device := { name := "it's \"loud\"\n" } } := by
    rw [saved?, contents?, Bytes.toText?_ofText]
    decide +kernel
  have fresh : random.length = 20 := rfl
  have loaded := load_of_nameless saved rfl (idOfBytes random)
  obtain ⟨again, base, held, -, rewritten⟩ := (load_settles (some file) fresh).2 _ _ loaded
  cases saved.symm.trans held
  have kept := (rewritten rfl).2
  refine ⟨fresh, _, _, loaded, fun same => ?_, rfl, again [], kept⟩
  rw [same, saved] at kept
  cases kept

end RemotePlayback.Settings
