/-
  What an action gives.

  The result of an action is computed step by step from the results of its parts, whatever
  they log (`Action.result_bind`). So an action gives a value exactly if its parts do, one
  after the other, and a computation on truth tables gives what it would give under the limit
  of the settings. What holds of the values of all its endings, an action ensures, and what holds
  of all its failures, it fails with (`Action.failsWith_bind`). Two actions are related if they end
  with related values or fail alike, and so is what is composed of related actions
  (`Action.relates_bind`). Whether an action asks for the settings is told from its parts
  (`Action.consults_bind`), as is what holds of all its records (`Action.logs_bind`).
-/
import PropTutor.Action

namespace PropTutor

namespace Action

variable {α β ε : Type} {s : Except SettingsError Settings}

/-- Under these settings the action ends with this value. -/
def Gives (a : Action α) (s : Except SettingsError Settings) (x : α) : Prop :=
  (a.run s).result = .ok x

/-! ## Results -/

theorem result_bind (a : Action α) (f : α → Action β) (s : Except SettingsError Settings) :
    ((a >>= f).run s).result = (a.run s).result.bind fun x => ((f x).run s).result := by
  show (andThen a f s).result = _
  unfold andThen run
  rcases a s with ⟨_ | x, events⟩
  · rfl
  · rfl

/-- What is written to the log has no part in the result. -/
theorem result_log_bind (source : LogSource) (level : LogLevel) (message : String)
    (f : Unit → Action α) (s : Except SettingsError Settings) :
    ((log source level message >>= f).run s).result = ((f ()).run s).result := by
  rw [result_bind]
  rfl

theorem result_ofExcept (failure : ε → Failure) (x : Except ε α)
    (s : Except SettingsError Settings) :
    ((ofExcept failure x).run s).result = x.mapError failure := by
  cases x <;> rfl

theorem result_ofTable (x : Except TableError α) (s : Except SettingsError Settings) :
    ((ofTable x).run s).result = x.mapError .table := by
  cases x with
  | ok a => rfl
  | error e => cases e <;> rfl

theorem result_tabulating (f : Int → Except TableError α) (settings : Settings) :
    ((tabulating f).run (.ok settings)).result = (f settings.maxVariables).mapError .table := by
  rw [tabulating, result_bind]
  exact result_ofTable _ _

/-! ## Values -/

theorem mapError_eq_ok {γ δ : Type} {f : γ → δ} {x : Except γ α} {a : α} :
    x.mapError f = .ok a ↔ x = .ok a := by
  cases x with
  | ok b => exact ⟨fun h => Except.ok.inj h ▸ rfl, fun h => Except.ok.inj h ▸ rfl⟩
  | error e => exact iff_of_false nofun nofun

theorem mapError_eq_error {γ δ : Type} {f : γ → δ} {x : Except γ α} {e : δ} :
    x.mapError f = .error e ↔ ∃ e', x = .error e' ∧ f e' = e := by
  cases x with
  | ok a => exact iff_of_false nofun fun ⟨_, h, _⟩ => nomatch h
  | error e' =>
    refine ⟨fun h => ⟨e', rfl, Except.error.inj h⟩, ?_⟩
    rintro ⟨e'', h, rfl⟩
    rw [Except.error.inj h]
    rfl

/-- One action after another gives what the second one gives for the value of the first. -/
theorem gives_bind {a : Action α} {f : α → Action β} {y : β} :
    (a >>= f).Gives s y ↔ ∃ x, a.Gives s x ∧ (f x).Gives s y := by
  rw [Gives, result_bind]
  unfold Gives
  cases (a.run s).result with
  | ok x =>
    refine ⟨fun h => ⟨x, rfl, h⟩, ?_⟩
    rintro ⟨x', hx, h⟩
    rwa [← Except.ok.inj hx] at h
  | error e => exact iff_of_false nofun fun ⟨_, h, _⟩ => nomatch h

/-- One action after another gives something if the second one does for the value of the
    first. -/
theorem exists_gives_bind {a : Action α} {f : α → Action β} {x : α} (ha : a.Gives s x)
    (hf : ∃ y, (f x).Gives s y) : ∃ y, (a >>= f).Gives s y :=
  hf.imp fun _ hy => gives_bind.2 ⟨x, ha, hy⟩

/-- What is known of the first action leaves the second one. -/
theorem gives_bind_of_gives {a : Action α} {f : α → Action β} {x : α} {y : β} (ha : a.Gives s x) :
    (a >>= f).Gives s y ↔ (f x).Gives s y := by
  rw [Gives, result_bind, ha]
  exact Iff.rfl

theorem gives_pure {x y : α} : (pure x : Action α).Gives s y ↔ x = y :=
  ⟨Except.ok.inj, congrArg Except.ok⟩

theorem gives_ofExcept {failure : ε → Failure} {x : Except ε α} {a : α} :
    (ofExcept failure x).Gives s a ↔ x = .ok a := by
  rw [Gives, result_ofExcept, mapError_eq_ok]

/-- A computation on truth tables gives what it gives under the limit of the settings; without
    settings it gives nothing. -/
theorem gives_tabulating {f : Int → Except TableError α} {a : α} :
    (tabulating f).Gives s a ↔ ∃ settings, s = .ok settings ∧ f settings.maxVariables = .ok a := by
  cases s with
  | ok settings =>
    rw [Gives, result_tabulating, mapError_eq_ok]
    exact ⟨fun h => ⟨settings, rfl, h⟩, fun ⟨_, h, ha⟩ => Except.ok.inj h ▸ ha⟩
  | error e => exact iff_of_false nofun fun ⟨_, h, _⟩ => nomatch h

/-- What is written to the log has no part in what an action gives. -/
theorem gives_log_bind {source : LogSource} {level : LogLevel} {message : String}
    {f : Unit → Action α} {a : α} :
    (log source level message >>= f).Gives s a ↔ (f ()).Gives s a := by
  rw [Gives, result_log_bind]
  exact Iff.rfl

/-! ## What every value has -/

/-- Whatever the action gives, and under any settings, has the property. -/
def Ensures (a : Action α) (p : α → Prop) : Prop := ∀ s x, a.Gives s x → p x

theorem ensures_pure {x : α} {p : α → Prop} (h : p x) : (pure x : Action α).Ensures p := by
  intro s y hy
  obtain rfl := gives_pure.1 hy
  exact h

/-- What the last action ensures for every value that it is run on, the whole ensures. -/
theorem ensures_bind {a : Action α} {f : α → Action β} {p : β → Prop}
    (h : ∀ x, (f x).Ensures p) : (a >>= f).Ensures p := by
  intro s y hy
  obtain ⟨x, -, hy⟩ := gives_bind.1 hy
  exact h x s y hy

theorem ensures_ofExcept {failure : ε → Failure} {x : Except ε α} {p : α → Prop}
    (h : ∀ a, x = .ok a → p a) : (ofExcept failure x).Ensures p :=
  fun _ a ha => h a (gives_ofExcept.1 ha)

theorem ensures_fail {failure : Failure} {p : α → Prop} : (fail failure : Action α).Ensures p :=
  fun _ _ h => nomatch h

/-! ## What every failure has -/

/-- However the action fails under these settings, the failure has the property. -/
def FailsWith (a : Action α) (s : Except SettingsError Settings) (p : Failure → Prop) : Prop :=
  ∀ e, (a.run s).result = .error e → p e

section

variable {p : Failure → Prop}

theorem failsWith_of_gives {a : Action α} {x : α} (h : a.Gives s x) : a.FailsWith s p :=
  fun _ he => nomatch h.symm.trans he

/-- The whole fails as its parts do, the second one for the value that the first one gives. -/
theorem failsWith_bind {a : Action α} {f : α → Action β} (ha : a.FailsWith s p)
    (hf : ∀ x, a.Gives s x → (f x).FailsWith s p) : (a >>= f).FailsWith s p := by
  intro e he
  rw [result_bind] at he
  cases hresult : (a.run s).result with
  | ok x =>
    rw [hresult] at he
    exact hf x hresult e he
  | error e' =>
    rw [hresult] at he
    exact ha e (hresult.trans (congrArg Except.error (Except.error.inj he)))

theorem failsWith_ofExcept {failure : ε → Failure} {x : Except ε α}
    (h : ∀ error, x = .error error → p (failure error)) : (ofExcept failure x).FailsWith s p := by
  intro e he
  cases x with
  | ok a => cases he
  | error error => exact Except.error.inj he ▸ h error rfl

end

/-! ## Two actions -/

/-- Under any settings, the actions give values that are related, or both fail in the same way. -/
def Relates (R : α → α → Prop) (a b : Action α) : Prop := ∀ s,
  (∃ x y, a.Gives s x ∧ b.Gives s y ∧ R x y) ∨
    ∃ e, (a.run s).result = .error e ∧ (b.run s).result = .error e

section

variable {R : α → α → Prop} {S : β → β → Prop}

theorem relates_refl (hR : ∀ x, R x x) (a : Action α) : a.Relates R a := by
  intro s
  cases hresult : (a.run s).result with
  | ok x => exact .inl ⟨x, x, hresult, hresult, hR x⟩
  | error e => exact .inr ⟨e, rfl, rfl⟩

theorem relates_pure {x y : α} (h : R x y) : (pure x : Action α).Relates R (pure y) :=
  fun _ => .inl ⟨x, y, rfl, rfl, h⟩

/-- Related actions are related whatever related actions follow them. -/
theorem relates_bind {a b : Action α} {f g : α → Action β} (hab : a.Relates R b)
    (hfg : ∀ x y, R x y → (f x).Relates S (g y)) : (a >>= f).Relates S (b >>= g) := by
  intro s
  rcases hab s with ⟨x, y, hx, hy, hxy⟩ | ⟨e, ha, hb⟩
  · rcases hfg x y hxy s with ⟨x', y', hx', hy', h⟩ | ⟨e, hx', hy'⟩
    · exact .inl ⟨x', y', (gives_bind_of_gives hx).2 hx', (gives_bind_of_gives hy).2 hy', h⟩
    · refine .inr ⟨e, ?_, ?_⟩
      · rw [result_bind, hx]
        exact hx'
      · rw [result_bind, hy]
        exact hy'
  · refine .inr ⟨e, ?_, ?_⟩
    · rw [result_bind, ha]
      rfl
    · rw [result_bind, hb]
      rfl

/-- One action in front of related ones leaves them related. -/
theorem relates_bind_left (a : Action α) {f g : α → Action β} (hfg : ∀ x, (f x).Relates S (g x)) :
    (a >>= f).Relates S (a >>= g) :=
  relates_bind (relates_refl (fun _ => rfl) a) fun x _ hxy => hxy ▸ hfg x

end

/-! ## Events -/

/-- The events of the second action come behind those of the first one; there are none if that
    fails. -/
theorem events_bind (a : Action α) (f : α → Action β) (s : Except SettingsError Settings) :
    ((a >>= f).run s).events = (a.run s).events ++
      match (a.run s).result with
      | .ok x => ((f x).run s).events
      | .error _ => [] := by
  show (andThen a f s).events = _
  unfold andThen run
  rcases a s with ⟨e | x, events⟩
  · exact (List.append_nil _).symm
  · rfl

/-- Under these settings the action asks for them. -/
def Consults (a : Action α) (s : Except SettingsError Settings) : Prop :=
  Event.consulted ∈ (a.run s).events

theorem consults_bind {a : Action α} {f : α → Action β} :
    (a >>= f).Consults s ↔ a.Consults s ∨ ∃ x, a.Gives s x ∧ (f x).Consults s := by
  rw [Consults, events_bind, List.mem_append]
  refine or_congr Iff.rfl ?_
  unfold Gives
  cases (a.run s).result with
  | ok x => simp only [Except.ok.injEq, exists_eq_left', Consults]
  | error e => simp only [List.not_mem_nil, reduceCtorEq, false_and, exists_false]

theorem consults_settings : settings.Consults s := List.mem_singleton_self _

/-- A computation on truth tables asks for the settings in every case. -/
theorem consults_tabulating {f : Int → Except TableError α} : (tabulating f).Consults s :=
  consults_bind.2 (.inl consults_settings)

/-! ## What is logged -/

/-- The second action writes its records behind those of the first one, and none if that fails. -/
theorem records_bind (a : Action α) (f : α → Action β) (s : Except SettingsError Settings) :
    ((a >>= f).run s).records = (a.run s).records ++
      match (a.run s).result with
      | .ok x => ((f x).run s).records
      | .error _ => [] := by
  rw [Outcome.records, events_bind, List.filterMap_append]
  cases (a.run s).result <;> rfl

theorem records_log_bind (source : LogSource) (level : LogLevel) (message : String)
    (f : Unit → Action α) (s : Except SettingsError Settings) :
    ((log source level message >>= f).run s).records =
      ⟨source, level, message⟩ :: ((f ()).run s).records := by
  rw [records_bind]
  rfl

/-- Whatever the action logs, under any settings and also if it fails, has the property. -/
def Logs (a : Action α) (p : LogRecord → Prop) : Prop := ∀ s, ∀ record ∈ (a.run s).records, p record

section

variable {p : LogRecord → Prop}

theorem logs_pure {x : α} : (pure x : Action α).Logs p := fun _ _ h => nomatch h

theorem logs_fail {failure : Failure} : (fail failure : Action α).Logs p := fun _ _ h => nomatch h

theorem logs_ofExcept {failure : ε → Failure} {x : Except ε α} : (ofExcept failure x).Logs p := by
  cases x with
  | ok a => exact logs_pure
  | error e => exact logs_fail

theorem logs_log {source : LogSource} {level : LogLevel} {message : String}
    (h : p ⟨source, level, message⟩) : (log source level message).Logs p := by
  intro s record hrecord
  rwa [List.mem_singleton.1 hrecord]

theorem logs_settings : settings.Logs p := fun _ _ h => nomatch h

/-- What the parts log, the whole logs. -/
theorem logs_bind {a : Action α} {f : α → Action β} (ha : a.Logs p) (hf : ∀ x, (f x).Logs p) :
    (a >>= f).Logs p := by
  intro s record hrecord
  rw [records_bind, List.mem_append] at hrecord
  rcases hrecord with hrecord | hrecord
  · exact ha s record hrecord
  · cases hresult : (a.run s).result with
    | ok x =>
      rw [hresult] at hrecord
      exact hf x s record hrecord
    | error e =>
      rw [hresult] at hrecord
      cases hrecord

/-- A computation on truth tables logs nothing but what tables log. -/
theorem logs_tabulating {f : Int → Except TableError α}
    (h : ∀ record : LogRecord, record.source = .tables → p record) : (tabulating f).Logs p := by
  refine logs_bind logs_settings fun settings => ?_
  cases f settings.maxVariables with
  | ok a => exact logs_pure
  | error e =>
    cases e with
    | tooLarge count limit => exact logs_bind (logs_log (h _ rfl)) fun _ => logs_fail
    | missingColumns names => exact logs_fail

end

end Action

end PropTutor
