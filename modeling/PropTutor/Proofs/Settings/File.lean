/-
  A settings file is read, or it is known what is wrong with it, unless a limit is infinite.

  What loading makes of a file depends on two limits, which are taken as integers, and on three
  sections, which have to be mappings. Whatever the values are, the settings have a limit that is
  not negative or the fault is one of those that are told with the path of the file, with a single
  exception: a limit that is an infinite float is no integer and is not told so
  (`Settings.ofMapping_eq_error`, `Settings.ofMapping_of_infinite`). The second limit is looked at
  only if the first one could be read. What no limit depends on, such as further keys and the level
  of the log, may be any value.
-/
import PropTutor.Proofs.Exercise.Decode
import PropTutor.Settings.Store

namespace PropTutor

/-- The fault lies in the form of the file or in a value of its own, and the error names the
    file. -/
def SettingsFault.isDiagnosed : SettingsFault → Bool
  | malformed | notMapping | notSection _ | notInteger _ | negativeLimit => true
  | absent | badScalar _ | infinite => false

namespace Settings

open Yaml (Value YamlError)

variable {v : Value} {file pairs : List (Value × Value)} {name key : String} {default : Int}
  {fault : SettingsFault}

/-! ## What a file holds -/

/-- The value of a section of the file is a mapping, or counts as an empty one. -/
def HasSection (file : List (Value × Value)) (name : String) (pairs : List (Value × Value)) :
    Prop :=
  mapping? ((item? file name).getD .null) = some pairs

/-- A limit of the file is left out or can be taken as an integer. -/
def HasLimit (file : List (Value × Value)) (name key : String) : Prop :=
  ∃ pairs, HasSection file name pairs ∧ ∀ w, item? pairs key = some w → ∃ n, w.toInteger = .ok n

/-- A limit of the file is an infinite float. -/
def HasInfiniteLimit (file : List (Value × Value)) (name key : String) : Prop :=
  ∃ pairs, HasSection file name pairs ∧
    ∃ negative, item? pairs key = some (.float (.infinite negative))

/-- In the order in which the limits are read, the first one that cannot be is infinite. -/
def MeetsInfiniteLimit (file : List (Value × Value)) : Prop :=
  HasInfiniteLimit file "truth_table" "max_variables" ∨
    HasLimit file "truth_table" "max_variables" ∧
      HasInfiniteLimit file "analysis" "counterexample_limit"

/-! ## One limit -/

theorem toInteger_eq_infinite : v.toInteger = .error .infinite ↔
    ∃ negative, v = .float (.infinite negative) := by
  cases v with
  | float x =>
    simp only [Value.float.injEq]
    exact Binary64.toInteger_eq_infinite
  | str s => exact iff_of_false (Text.toInteger_ne_infinite s) fun ⟨_, h⟩ => nomatch h
  | bytes bs => exact iff_of_false (Value.bytesToInteger_ne_infinite bs) fun ⟨_, h⟩ => nomatch h
  | _ => exact iff_of_false nofun fun ⟨_, h⟩ => nomatch h

theorem sectionPairs_eq_ok : sectionPairs file name = .ok pairs ↔ HasSection file name pairs := by
  unfold sectionPairs HasSection
  dsimp only
  cases mapping? ((item? file name).getD .null) with
  | some pairs' => rw [Except.ok.injEq, Option.some.injEq]
  | none => exact iff_of_false nofun nofun

theorem sectionPairs_eq_error (h : sectionPairs file name = .error fault) :
    fault.isDiagnosed = true := by
  unfold sectionPairs at h
  dsimp only at h
  split at h
  · cases h
  · rw [← Except.error.inj h, SettingsFault.isDiagnosed]

/-- An entry is read if it is left out or is an integer. -/
theorem exists_integerEntry_eq_ok : (∃ n, integerEntry pairs key default = .ok n) ↔
    ∀ w, item? pairs key = some w → ∃ n, w.toInteger = .ok n := by
  unfold integerEntry
  cases item? pairs key with
  | none => exact iff_of_true ⟨default, rfl⟩ nofun
  | some w =>
    dsimp only
    cases hw : w.toInteger with
    | ok n => exact iff_of_true ⟨n, rfl⟩ fun _ h => ⟨n, Option.some.inj h ▸ hw⟩
    | error e =>
      refine iff_of_false ?_ fun h => ?_
      · rintro ⟨n, hn⟩
        cases e <;> cases hn
      · obtain ⟨n, hn⟩ := h w rfl
        cases hw.symm.trans hn

theorem integerEntry_of_infinite {negative : Bool}
    (h : item? pairs key = some (.float (.infinite negative))) :
    integerEntry pairs key default = .error .infinite := by
  rw [integerEntry, h]
  rfl

/-- An entry that is not read is infinite, or it is known why it is no integer. -/
theorem integerEntry_eq_error (h : integerEntry pairs key default = .error fault) :
    fault.isDiagnosed = true ∨
      fault = .infinite ∧ ∃ negative, item? pairs key = some (.float (.infinite negative)) := by
  unfold integerEntry at h
  split at h
  · cases h
  · next w hitem =>
    split at h
    · cases h
    · next hw =>
      obtain ⟨negative, rfl⟩ := toInteger_eq_infinite.1 hw
      exact .inr ⟨(Except.error.inj h).symm, negative, hitem⟩
    · rw [← Except.error.inj h]
      exact .inl rfl

/-- A limit in a section of the file. -/
def limitEntry (file : List (Value × Value)) (name key : String) (default : Int) :
    Except SettingsFault Int := do
  integerEntry (← sectionPairs file name) key default

theorem exists_limitEntry_eq_ok :
    (∃ n, limitEntry file name key default = .ok n) ↔ HasLimit file name key := by
  simp only [limitEntry, bind_eq_ok, sectionPairs_eq_ok]
  rw [exists_comm]
  refine exists_congr fun pairs => ?_
  rw [exists_and_left, exists_integerEntry_eq_ok]

theorem limitEntry_of_infinite (h : HasInfiniteLimit file name key) :
    limitEntry file name key default = .error .infinite := by
  obtain ⟨pairs, hpairs, negative, hitem⟩ := h
  exact bind_eq_error.2 (.inr ⟨pairs, sectionPairs_eq_ok.2 hpairs, integerEntry_of_infinite hitem⟩)

theorem limitEntry_eq_error (h : limitEntry file name key default = .error fault) :
    fault.isDiagnosed = true ∨ fault = .infinite ∧ HasInfiniteLimit file name key := by
  rcases bind_eq_error.1 h with h | ⟨pairs, hpairs, h⟩
  · exact .inl (sectionPairs_eq_error h)
  · refine (integerEntry_eq_error h).imp_right fun ⟨hfault, hitem⟩ => ⟨hfault, pairs, ?_, hitem⟩
    exact sectionPairs_eq_ok.1 hpairs

/-! ## The whole file -/

/-- The settings that the mapping of a file holds. -/
def ofMapping (file : List (Value × Value)) : Except SettingsFault Settings := do
  let maxVariables ← limitEntry file "truth_table" "max_variables" standard.maxVariables
  let counterexampleLimit ←
    limitEntry file "analysis" "counterexample_limit" standard.counterexampleLimit
  let logging ← sectionPairs file "logging"
  let logLevel := Text.upper (((item? logging "level").map (·.toText)).getD standard.logLevel)
  if maxVariables < 0 then .error .negativeLimit
  else return ⟨maxVariables, counterexampleLimit, logLevel⟩

theorem ofValue_of_mapping (h : mapping? v = some file) : ofValue v = ofMapping file := by
  rw [ofValue, h]
  simp only [ofMapping, limitEntry, bind_assoc]
  rfl

theorem ofValue_of_none (h : mapping? v = none) : ofValue v = .error .notMapping := by
  rw [ofValue, h]
  rfl

theorem maxVariables_nonneg_of_ofMapping {settings : Settings} (h : ofMapping file = .ok settings) :
    0 ≤ settings.maxVariables := by
  obtain ⟨maxVariables, -, h⟩ := bind_eq_ok.1 h
  obtain ⟨counterexampleLimit, -, h⟩ := bind_eq_ok.1 h
  obtain ⟨logging, -, h⟩ := bind_eq_ok.1 h
  dsimp only at h
  split at h
  · cases h
  · next hlimit =>
    rw [← Except.ok.inj h]
    exact Int.not_lt.1 hlimit

theorem ofMapping_eq_error (h : ofMapping file = .error fault) : fault.isDiagnosed = true ∨
    fault = .infinite ∧ MeetsInfiniteLimit file := by
  rcases bind_eq_error.1 h with h | ⟨maxVariables, hfirst, h⟩
  · exact (limitEntry_eq_error h).imp_right fun ⟨hfault, h⟩ => ⟨hfault, .inl h⟩
  have hfirst := exists_limitEntry_eq_ok.1 ⟨maxVariables, hfirst⟩
  rcases bind_eq_error.1 h with h | ⟨counterexampleLimit, -, h⟩
  · exact (limitEntry_eq_error h).imp_right fun ⟨hfault, h⟩ => ⟨hfault, .inr ⟨hfirst, h⟩⟩
  rcases bind_eq_error.1 h with h | ⟨logging, -, h⟩
  · exact .inl (sectionPairs_eq_error h)
  dsimp only at h
  split at h
  · rw [← Except.error.inj h]
    exact .inl rfl
  · cases h

theorem ofMapping_of_infinite (h : MeetsInfiniteLimit file) :
    ofMapping file = .error .infinite := by
  refine bind_eq_error.2 ?_
  rcases h with h | ⟨hfirst, h⟩
  · exact .inl (limitEntry_of_infinite h)
  · obtain ⟨maxVariables, hfirst⟩ := exists_limitEntry_eq_ok.2 hfirst
    exact .inr ⟨maxVariables, hfirst, bind_eq_error.2 (.inl (limitEntry_of_infinite h))⟩

/-! ## What loading gives -/

/-- What becomes of a file from which this was loaded. -/
def ofLoaded (path : String) (loaded : Except YamlError Value) : Except SettingsError Settings :=
  let result : Except SettingsFault Settings :=
    match loaded with
    | .ok v => ofValue v
    | .error .malformed => .error .malformed
    | .error e => .error (.badScalar e)
  result.mapError (⟨path, ·⟩)

/-- The settings are read and their limit is not negative, or the error says what is wrong with
    the file. -/
def ReadOrDiagnosed (path : String) (x : Except SettingsError Settings) : Prop :=
  (∃ settings, x = .ok settings ∧ 0 ≤ settings.maxVariables) ∨
    ∃ fault, x = .error ⟨path, fault⟩ ∧ fault.isDiagnosed = true

theorem not_readOrDiagnosed_infinite (path : String) :
    ¬ ReadOrDiagnosed path (.error ⟨path, .infinite⟩) := by
  rintro (⟨settings, h, -⟩ | ⟨fault, h, hfault⟩)
  · cases h
  · obtain rfl : .infinite = fault := congrArg SettingsError.fault (Except.error.inj h)
    cases hfault

/-- The value is that of a file in which an infinite limit is met. -/
def IsUnreported (v : Value) : Prop := ∃ file, mapping? v = some file ∧ MeetsInfiniteLimit file

theorem ofValue_of_isUnreported (h : IsUnreported v) : ofValue v = .error .infinite := by
  obtain ⟨file, hfile, h⟩ := h
  rw [ofValue_of_mapping hfile, ofMapping_of_infinite h]

theorem readOrDiagnosed_ofLoaded (path : String) (h : ¬ IsUnreported v) :
    ReadOrDiagnosed path (ofLoaded path (.ok v)) := by
  unfold ofLoaded
  dsimp only
  cases hmapping : mapping? v with
  | none =>
    rw [ofValue_of_none hmapping]
    exact .inr ⟨.notMapping, rfl, rfl⟩
  | some file =>
    rw [ofValue_of_mapping hmapping]
    cases hsettings : ofMapping file with
    | ok settings => exact .inl ⟨settings, rfl, maxVariables_nonneg_of_ofMapping hsettings⟩
    | error fault =>
      rcases ofMapping_eq_error hsettings with hfault | ⟨-, hinfinite⟩
      · exact .inr ⟨fault, rfl, hfault⟩
      · exact absurd ⟨file, hmapping, hinfinite⟩ h

end Settings

open Settings Yaml in
/-- Whatever is loaded from a settings file, be it a value of any form or nothing because the text
    is malformed, the settings are read with a limit that is not negative or the error says what is
    wrong with the file, exactly if no limit is met that is an infinite float. If one is met, the
    error is that of taking it as an integer and does not name the file. -/
theorem settings_file_is_read_or_diagnosed_unless_infinite (path : String)
    (loaded : Except YamlError Value) (hloaded : ∀ e, loaded = .error e → e = .malformed) :
    (ReadOrDiagnosed path (ofLoaded path loaded) ↔ ¬ ∃ v, loaded = .ok v ∧ IsUnreported v) ∧
    ((∃ v, loaded = .ok v ∧ IsUnreported v) →
      ofLoaded path loaded = .error ⟨path, .infinite⟩) ∧
    ∀ text, Value.ofText text = loaded → ofText path text = ofLoaded path loaded := by
  have hinfinite : (∃ v, loaded = .ok v ∧ IsUnreported v) →
      ofLoaded path loaded = .error ⟨path, .infinite⟩ := by
    rintro ⟨v, rfl, h⟩
    rw [ofLoaded, ofValue_of_isUnreported h]
    rfl
  refine ⟨⟨fun h hmet => ?_, fun h => ?_⟩, hinfinite, fun text htext => htext ▸ rfl⟩
  · rw [hinfinite hmet] at h
    exact not_readOrDiagnosed_infinite path h
  · cases loaded with
    | ok v => exact readOrDiagnosed_ofLoaded path fun hmet => h ⟨v, rfl, hmet⟩
    | error e =>
      obtain rfl := hloaded e rfl
      exact .inr ⟨.malformed, rfl, rfl⟩

/-- A file whose first limit is no number and whose second one is infinite. -/
def twoBadLimits : Yaml.Value :=
  .mapping [(.str "truth_table", .mapping [(.str "max_variables", .float .nan)]),
    (.str "analysis", .mapping [(.str "counterexample_limit", .float (.infinite false))])]

open Settings in
/-- The second limit is not looked at, so the file is reported. -/
theorem settings_file_is_read_or_diagnosed_unless_infinite_behind :
    (∀ e, Except.ok twoBadLimits = .error e → e = Yaml.YamlError.malformed) ∧
    ReadOrDiagnosed "engine.yaml" (ofLoaded "engine.yaml" (.ok twoBadLimits)) := by
  have hloaded : ∀ e, Except.ok twoBadLimits = .error e → e = Yaml.YamlError.malformed := nofun
  have hvalue : ofValue twoBadLimits = .error (.notInteger .notANumber) := by decide +kernel
  refine ⟨hloaded, (settings_file_is_read_or_diagnosed_unless_infinite "engine.yaml" _
    hloaded).1.2 ?_⟩
  rintro ⟨v, hv, h⟩
  obtain rfl := Except.ok.inj hv
  cases hvalue.symm.trans (ofValue_of_isUnreported h)

/-- A file whose first limit is infinite. -/
def infiniteLimit : String := "truth_table:\n  max_variables: .inf\n"

open Settings in
/-- It is loaded, but the settings are not read and the error is not that of a malformed file. -/
theorem infinite_limit_is_not_reported : ¬ ∀ path text : String,
    (∀ e, Yaml.Value.ofText text = .error e → e = .malformed) →
      ReadOrDiagnosed path (ofText path text) := by
  intro h
  have hloads : (Yaml.Value.ofText infiniteLimit).isOk = true := by decide +kernel
  have hfails : ofText "engine.yaml" infiniteLimit = .error ⟨"engine.yaml", .infinite⟩ := by
    decide +kernel
  specialize h "engine.yaml" infiniteLimit fun e he => by
    rw [he] at hloads
    cases hloads
  rw [hfails] at h
  exact not_readOrDiagnosed_infinite "engine.yaml" h

end PropTutor
