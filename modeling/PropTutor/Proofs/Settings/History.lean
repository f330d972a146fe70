/-
  Which settings are in force after a history of requests.

  A store serves requests of every kind: the file is written, deleted or read, settings are asked
  for, put in force or forgotten, the log is set up, and actions of the engine run, which may ask
  for the settings on their own. What is in force then can be told from the requests and the file
  alone (`settings_follow_history`). Of the requests since the settings were last forgotten, the
  last one that put settings in force decides; if there is none, the first one that asked for
  the settings while the file could be read; and if there is none either, the file as it is now.
  All of this holds however the text of the file is read.

  What one request does to the store is said by `SettingsStore.serve_eq`, and what a list of them
  does follows by induction, from the last one (`SettingsStore.after_eq`).
-/
import Mathlib.Data.List.DropRight
import PropTutor.Proofs.Action

namespace PropTutor

/-- What a store serves. -/
inductive Request : Type 1 where
  /-- Give the file a text, or delete it. -/
  | write (text : Option String)
  /-- Read the file, which has to be there. -/
  | readFile
  /-- Read the file if it is there. -/
  | load
  | get
  | set (settings : Settings)
  | reset
  | configureLogging (level : Option String)
  /-- Run an action of the engine, such as a truth table, a comparison or a grading. -/
  | perform {α : Type} (a : Action α)

namespace Request

/-- The file behind the request. -/
def leaves (file : Option String) : Request → Option String
  | write text => text
  | _ => file

/-- The request asks for the settings, where asking gives `given`. -/
def asks (given : Except SettingsError Settings) : Request → Bool
  | get => true
  | configureLogging level => ((LogSetup.action level).run given).events.contains .consulted
  | perform a => (a.run given).events.contains .consulted
  | _ => false

variable {given : Except SettingsError Settings}

theorem asks_perform {α : Type} {a : Action α} :
    (perform a).asks given = true ↔ a.Consults given :=
  List.contains_iff_mem

/-- A truth table asks for the settings as soon as its columns are known. -/
theorem asks_truthTable {f : Formula} {names : Option (List String)} {columns : List String}
    (hcolumns : TruthTable.columns f names = .ok columns) :
    (perform (TruthTable.action f names)).asks given = true := by
  have hgives : (Action.ofTable (TruthTable.columns f names)).Gives given columns := by
    rw [hcolumns]
    rfl
  exact asks_perform.2 (Action.consults_bind.2 (.inr ⟨columns, hgives, Action.consults_tabulating⟩))

/-- A comparison always asks for the settings, if not for what is shown then for the tables. -/
theorem asks_comparison (shown : Option Int) (f g : Formula) :
    (perform (Comparison.action shown f g)).asks given = true := by
  rw [asks_perform]
  cases shown with
  | some n =>
    exact Action.consults_bind.2 (.inr ⟨n, Action.gives_pure.2 rfl, Action.consults_tabulating⟩)
  | none => exact Action.consults_bind.2 (.inl Action.consults_settings)

end Request

namespace SettingsStore

/-- The store before any request: nothing is kept. -/
def opened (path : String) (file : Option String) : SettingsStore := ⟨path, file, none⟩

/-- The store behind a request. -/
def serve (read : SettingsReader) (s : SettingsStore) : Request → SettingsStore
  | .write text => s.write text
  | .readFile => s
  | .load => s
  | .get => (s.get read).2
  | .set settings => s.set settings
  | .reset => s.reset
  | .configureLogging level => (s.perform (LogSetup.action level) read).2
  | .perform a => (s.perform a read).2

/-- The store behind a list of requests. -/
def after (read : SettingsReader) (s : SettingsStore) (requests : List Request) : SettingsStore :=
  requests.foldl (serve read) s

end SettingsStore

/-! ## Histories -/

/-- A request, and what loading the settings from the file would have given at its time. -/
structure Moment where
  request : Request
  given : Except SettingsError Settings

namespace Moment

/-- The settings were forgotten. -/
def isReset (m : Moment) : Bool :=
  match m.request with
  | .reset => true
  | _ => false

/-- The settings that were put in force. -/
def set? (m : Moment) : Option Settings :=
  match m.request with
  | .set settings => some settings
  | _ => none

/-- The settings that were asked for and could be loaded. -/
def loaded? (m : Moment) : Option Settings :=
  if m.request.asks m.given then m.given.toOption else none

end Moment

namespace History

/-- The file behind a list of requests. -/
def file (initial : Option String) (requests : List Request) : Option String :=
  requests.foldl Request.leaves initial

/-- The moments of a list of requests. -/
def moments (read : SettingsReader) (path : String) : Option String → List Request → List Moment
  | _, [] => []
  | file, r :: requests =>
    ⟨r, (SettingsStore.opened path file).load read⟩ :: moments read path (r.leaves file) requests

/-- The moments since the settings were last forgotten. -/
def recent (read : SettingsReader) (path : String) (initial : Option String)
    (requests : List Request) : List Moment :=
  (moments read path initial requests).rtakeWhile (!·.isReset)

/-- The settings that were put in force last. -/
def lastSet? (moments : List Moment) : Option Settings := moments.reverse.findSome? Moment.set?

/-- The settings that were loaded first. -/
def firstLoaded? (moments : List Moment) : Option Settings := moments.findSome? Moment.loaded?

variable (read : SettingsReader) (path : String) (initial : Option String)
  (requests : List Request) (r : Request)

theorem moments_append : moments read path initial (requests ++ [r]) =
    moments read path initial requests ++
      [⟨r, (SettingsStore.opened path (file initial requests)).load read⟩] := by
  induction requests generalizing initial with
  | nil => rfl
  | cons r' requests ih => exact congrArg (List.cons _) (ih (r'.leaves initial))

theorem recent_append_reset : recent read path initial (requests ++ [.reset]) = [] := by
  rw [recent, moments_append, List.rtakeWhile_concat]
  rfl

theorem recent_append (hr : r ≠ .reset) : recent read path initial (requests ++ [r]) =
    recent read path initial requests ++
      [⟨r, (SettingsStore.opened path (file initial requests)).load read⟩] := by
  have hkeep : ∀ given, (Moment.mk r given).isReset = false := by
    intro given
    unfold Moment.isReset
    split
    · next h => exact absurd h hr
    · rfl
  rw [recent, moments_append, List.rtakeWhile_concat, hkeep]
  rfl

theorem lastSet?_append (ms : List Moment) (m : Moment) :
    lastSet? (ms ++ [m]) = m.set?.or (lastSet? ms) := by
  rw [lastSet?, List.reverse_append, List.findSome?_append, List.reverse_singleton,
    List.findSome?_singleton]
  rfl

theorem firstLoaded?_append (ms : List Moment) (m : Moment) :
    firstLoaded? (ms ++ [m]) = (firstLoaded? ms).or m.loaded? := by
  rw [firstLoaded?, List.findSome?_append, List.findSome?_singleton]
  rfl

end History

/-! ## One request -/

namespace SettingsStore

variable {read : SettingsReader} {s : SettingsStore} {r : Request}

theorem current_of_kept {settings : Settings} (h : s.kept = some settings) :
    s.current read = .ok settings := by
  rw [current, h]

theorem current_of_none (h : s.kept = none) : s.current read = s.load read := by
  rw [current, h]

/-- Once the settings were asked for, those that could be loaded are kept, unless others were kept
    before. -/
theorem consulted_eq (read : SettingsReader) (s : SettingsStore) :
    s.consulted read = ⟨s.path, s.file, s.kept.or (s.load read).toOption⟩ := by
  obtain ⟨path, file, _ | settings⟩ := s
  · have hcurrent : (mk path file none).current read = (mk path file none).load read := rfl
    rw [consulted, hcurrent]
    cases (mk path file none).load read with
    | ok settings => rfl
    | error e => rfl
  · rfl

theorem perform_eq {α : Type} (a : Action α) (read : SettingsReader) (s : SettingsStore) :
    (s.perform a read).2 = ⟨s.path, s.file, s.kept.or
      (if (a.run (s.load read)).events.contains .consulted then (s.load read).toOption
        else none)⟩ := by
  unfold perform
  dsimp only
  cases hkept : s.kept with
  | some settings =>
    split
    · rw [consulted_eq, hkept, Option.some_or, Option.some_or]
    · rw [Option.some_or, ← hkept]
  | none =>
    rw [current_of_none hkept, Option.none_or]
    split
    · rw [consulted_eq, hkept, Option.none_or]
    · rw [← hkept]

/-- The store behind a request: kept is what it put in force, or what it asked for and could be
    loaded, unless other settings were kept before. -/
theorem serve_eq (hr : r ≠ .reset) : s.serve read r = ⟨s.path, r.leaves s.file,
    (Moment.mk r (s.load read)).set?.or (s.kept.or (Moment.mk r (s.load read)).loaded?)⟩ := by
  have hnone : s.kept.or none = s.kept := Option.or_none
  cases r with
  | write text => exact congrArg (mk s.path text) hnone.symm
  | readFile => exact congrArg (mk s.path s.file) hnone.symm
  | load => exact congrArg (mk s.path s.file) hnone.symm
  | get => exact consulted_eq read s
  | set settings => rfl
  | reset => exact absurd rfl hr
  | configureLogging level => exact perform_eq _ read s
  | perform a => exact perform_eq a read s

/-- Where nothing is kept and the file cannot be read, a request keeps nothing either, unless it
    puts settings in force. -/
theorem kept_serve_eq_none {e : SettingsError} (hkept : s.kept = none)
    (hload : s.load read = .error e) (hset : ∀ settings, r ≠ .set settings) :
    (s.serve read r).kept = none := by
  by_cases hr : r = .reset
  · subst hr
    rfl
  · have hset? : (Moment.mk r (s.load read)).set? = none := by
      unfold Moment.set?
      split
      · next settings h => exact absurd h (hset settings)
      · rfl
    have hloaded? : (Moment.mk r (s.load read)).loaded? = none := by
      rw [hload]
      exact ite_self _
    rw [serve_eq hr, hset?, hloaded?, hkept]
    rfl

/-! ## A run of requests -/

/-- The store behind a list of requests: its file is the one that was written last, and kept is what
    the recent moments tell. -/
theorem after_eq (read : SettingsReader) (path : String) (initial : Option String)
    (requests : List Request) :
    (opened path initial).after read requests = ⟨path, History.file initial requests,
      (History.lastSet? (History.recent read path initial requests)).or
        (History.firstLoaded? (History.recent read path initial requests))⟩ := by
  induction requests using List.reverseRecOn with
  | nil => rfl
  | append_singleton requests r ih =>
    have hlast : (opened path initial).after read (requests ++ [r]) =
        ((opened path initial).after read requests).serve read r := by
      rw [after, List.foldl_append]
      rfl
    have hfile : History.file initial (requests ++ [r]) =
        r.leaves (History.file initial requests) := by
      rw [History.file, List.foldl_append]
      rfl
    rw [hlast, hfile, ih]
    by_cases hr : r = .reset
    · subst hr
      rw [History.recent_append_reset]
      rfl
    · -- loading needs the path and the file only, so the moments know what it gives
      rw [serve_eq hr, History.recent_append read path initial requests r hr,
        History.lastSet?_append, History.firstLoaded?_append, Option.or_assoc, Option.or_assoc]
      rfl

end SettingsStore

/-- What asking for the settings gives behind any list of requests to a store that kept nothing,
    however the text of the file is read. If settings were put in force since they were last
    forgotten, these are the last ones that were. Otherwise, if settings were asked for since then
    and could be loaded, by whichever request, they are the first ones that could, whatever has
    become of the file. Otherwise they are those of the file as it is now. Where that fails nothing
    is kept, so the next request loads again. Writing or reading the file never changes what is
    kept. Every comparison asks for the settings, and so does every truth table whose columns
    include the variables of its formula. -/
theorem settings_follow_history (read : SettingsReader) (path : String) (initial : Option String)
    (requests : List Request) :
    let now := (SettingsStore.opened path initial).after read requests
    let recent := History.recent read path initial requests
    (∀ settings, History.lastSet? recent = some settings → (now.get read).1 = .ok settings) ∧
    (History.lastSet? recent = none → ∀ settings, History.firstLoaded? recent = some settings →
      (now.get read).1 = .ok settings) ∧
    (History.lastSet? recent = none → History.firstLoaded? recent = none →
      (∀ text, History.file initial requests = some text →
        (now.get read).1 = read path text) ∧
      (History.file initial requests = none → (now.get read).1 = .ok .standard)) ∧
    (∀ e, (now.get read).1 = .error e → ∀ r, (∀ settings, r ≠ .set settings) →
      (now.serve read r).kept = none ∧
        ((now.serve read r).get read).1 = (now.serve read r).load read) ∧
    (∀ text, (now.serve read (.write text)).kept = now.kept) ∧
    now.serve read .readFile = now ∧ now.serve read .load = now ∧
    (∀ shown f g given, (Request.perform (Comparison.action shown f g)).asks given = true) ∧
    (∀ f names columns given, TruthTable.columns f names = .ok columns →
      (Request.perform (TruthTable.action f names)).asks given = true) := by
  intro now recent
  have hnow := SettingsStore.after_eq read path initial requests
  have hkept : now.kept = (History.lastSet? recent).or (History.firstLoaded? recent) :=
    congrArg SettingsStore.kept hnow
  refine ⟨?_, ?_, ?_, ?_, fun _ => rfl, rfl, rfl,
    fun shown f g _ => Request.asks_comparison shown f g, fun _ _ _ _ => Request.asks_truthTable⟩
  · intro settings hset
    rw [hset, Option.some_or] at hkept
    exact SettingsStore.current_of_kept hkept
  · intro hset settings hloaded
    rw [hset, hloaded, Option.none_or] at hkept
    exact SettingsStore.current_of_kept hkept
  · intro hset hloaded
    rw [hset, hloaded, Option.none_or] at hkept
    have hload : (now.get read).1 =
        (SettingsStore.opened path (History.file initial requests)).load read :=
      (SettingsStore.current_of_none hkept).trans
        ((congrArg (SettingsStore.load · read) hnow).trans rfl)
    constructor
    · intro text hfile
      rw [hload, hfile]
      rfl
    · intro hfile
      rw [hload, hfile]
      rfl
  · intro e hfails r hr
    have hnone : now.kept = none := by
      cases hkept : now.kept with
      | none => rfl
      | some settings => cases hfails.symm.trans (SettingsStore.current_of_kept hkept)
    have hload : now.load read = .error e :=
      (SettingsStore.current_of_none hnone).symm.trans hfails
    have hbehind : (now.serve read r).kept = none :=
      SettingsStore.kept_serve_eq_none hnone hload hr
    exact ⟨hbehind, SettingsStore.current_of_none hbehind⟩

/-- A request for the settings that fails, a file that can be read, a comparison, which loads it,
    and then the file is deleted. -/
def comparedBetweenWrites : List Request := [.get, .write (some "{logging: {level: x}}"),
  .perform (Comparison.action none (.atom "P") (.atom "Q")), .write none, .readFile]

/-- What the comparison loaded stays in force when the file is gone, until it is forgotten. -/
theorem settings_follow_history_file_deleted :
    (((SettingsStore.opened "engine.yaml" (some "3")).after Settings.ofText
      comparedBetweenWrites).get).1 = .ok ⟨16, 5, "X"⟩ ∧
    (((SettingsStore.opened "engine.yaml" (some "3")).after Settings.ofText
      (comparedBetweenWrites ++ [.reset])).get).1 = .ok .standard := by
  have hset : History.lastSet? (History.recent Settings.ofText "engine.yaml" (some "3")
      comparedBetweenWrites) = none := by decide +kernel
  have hloaded : History.firstLoaded? (History.recent Settings.ofText "engine.yaml" (some "3")
      comparedBetweenWrites) = some ⟨16, 5, "X"⟩ := by
    decide +kernel
  have hforgotten : History.recent Settings.ofText "engine.yaml" (some "3")
      (comparedBetweenWrites ++ [.reset]) = [] := History.recent_append_reset _ _ _ _
  obtain ⟨-, hfirst, -⟩ :=
    settings_follow_history Settings.ofText "engine.yaml" (some "3") comparedBetweenWrites
  obtain ⟨-, -, hfile, -⟩ := settings_follow_history Settings.ofText "engine.yaml" (some "3")
    (comparedBetweenWrites ++ [.reset])
  rw [hforgotten] at hfile
  exact ⟨hfirst hset _ hloaded, (hfile rfl rfl).2 rfl⟩

end PropTutor
