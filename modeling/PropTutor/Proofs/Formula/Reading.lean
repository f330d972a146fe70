/-
  The reader accepts exactly the grammar.

  Without a limit of nesting the reader finds a tree if and only if the grammar derives it, so
  the grammar is unambiguous: the reader finds one tree at most. Where the grammar derives
  nothing, the reader reports one of the tokens or their end, and no other kind of error.
-/
import PropTutor.Proofs.Formula.Sound

namespace PropTutor

/-- What a reader of these tokens can find. -/
def Tokens.Finds (ts : Tokens) : Found → Prop
  | .token t => t ∈ ts.items
  | .endOfInput pos => pos = ts.stop

namespace Reader

/-! ## Errors -/

theorem misplaced_cases (stack : List Frame) (found : Found) :
    misplaced stack found = .unexpected found ∨ misplaced stack found = .unclosed found := by
  rw [misplaced]
  split
  · exact .inr rfl
  · exact .inl rfl

/-- A token is refused by naming it. -/
theorem step_error {r : Reader} {t : Token} {e : SyntaxError} (h : step none r t = .error e) :
    e = .unexpected (.token t) ∨ e = .unclosed (.token t) := by
  cases r with
  | operand stack =>
    rw [step] at h
    split at h
    · cases h
    · cases h
    · cases h
    · exact .inl (Except.error.inj h).symm
  | operator stack f =>
    rw [step] at h
    split at h
    · cases h
    · split at h
      · cases h
      · exact .inl (Except.error.inj h).symm
    · rw [← Except.error.inj h]
      exact misplaced_cases stack (.token t)

/-- The end of the tokens is refused by naming it. -/
theorem finish_error {r : Reader} {stop : Nat} {e : SyntaxError} (h : r.finish stop = .error e) :
    e = .unexpected (.endOfInput stop) ∨ e = .unclosed (.endOfInput stop) := by
  cases r with
  | operand stack => exact .inl (Except.error.inj h).symm
  | operator stack f =>
    rw [finish] at h
    split at h
    · cases h
    · exact .inr (Except.error.inj h).symm

/-- A run that fails has taken the tokens in front of the one that is refused. -/
theorem takeAll_error {r : Reader} {ts : List Token} {e : SyntaxError}
    (h : r.takeAll ts = .error e) : ∃ before t after r', ts = before ++ t :: after ∧
      r.takeAll before = .ok r' ∧ step none r' t = .error e := by
  induction ts generalizing r with
  | nil => cases h
  | cons t ts ih =>
    rw [takeAll_cons] at h
    cases hstep : step none r t with
    | error e' =>
      rw [hstep] at h
      obtain rfl : e' = e := Except.error.inj h
      exact ⟨[], t, ts, r, rfl, rfl, hstep⟩
    | ok m =>
      rw [hstep] at h
      obtain ⟨before, u, after, r', rfl, hrun, herror⟩ := ih h
      refine ⟨t :: before, u, after, r', rfl, ?_, herror⟩
      rw [takeAll_cons, hstep]
      exact hrun

end Reader

namespace Formula

theorem ofTokens_eq (ts : Tokens) :
    ofTokens none ts = (Reader.start.takeAll ts.items).bind (·.finish ts.stop) := rfl

/-- Malformed tokens are refused by naming one of them, or their end. -/
theorem ofTokens_error {ts : Tokens} {e : SyntaxError} (h : ofTokens none ts = .error e) :
    ∃ found, ts.Finds found ∧ (e = .unexpected found ∨ e = .unclosed found) := by
  rw [ofTokens_eq] at h
  cases hrun : Reader.start.takeAll ts.items with
  | error e' =>
    rw [hrun] at h
    obtain rfl : e' = e := Except.error.inj h
    obtain ⟨before, t, after, r, hts, -, hstep⟩ := Reader.takeAll_error hrun
    have ht : t ∈ ts.items := by
      rw [hts]
      exact List.mem_append_right _ (List.mem_cons_self ..)
    exact ⟨.token t, ht, Reader.step_error hstep⟩
  | ok r =>
    rw [hrun] at h
    exact ⟨.endOfInput ts.stop, rfl, Reader.finish_error h⟩

theorem ofTokens_eq_ok {ts : Tokens} {f : Formula} :
    ofTokens none ts = .ok f ↔ Derives .iff ts.items f :=
  ⟨derives_of_ofTokens, Derives.ofTokens⟩

/-! ## Texts -/

theorem parseWithin_of_ofText {limit : Option Nat} {s : String} {ts : Tokens}
    (h : Tokens.ofText s = .ok ts) : parseWithin limit s = ofTokens limit ts := by
  rw [parseWithin, h]
  rfl

theorem parseWithin_of_error {limit : Option Nat} {s : String} {e : SyntaxError}
    (h : Tokens.ofText s = .error e) : parseWithin limit s = .error e := by
  rw [parseWithin, h]
  rfl

end Formula

/-- A text is read if it has tokens and the grammar derives a tree from them. -/
theorem Formula.parseWithin_eq_ok {s : String} {f : Formula} :
    parseWithin none s = .ok f ↔ ∃ ts, Tokens.ofText s = .ok ts ∧ Derives .iff ts.items f := by
  cases hts : Tokens.ofText s with
  | error e =>
    rw [parseWithin_of_error hts]
    exact iff_of_false nofun fun ⟨_, hne, _⟩ => nomatch hne
  | ok ts =>
    rw [parseWithin_of_ofText hts]
    refine ofTokens_eq_ok.trans ⟨fun h => ⟨ts, rfl, h⟩, ?_⟩
    rintro ⟨us, hus, h⟩
    obtain rfl : ts = us := Except.ok.inj hus
    exact h

/-- The grammar gives a sequence of tokens one tree at most. -/
theorem Derives.unique {ts : List Token} {f g : Formula} (hf : Derives .iff ts f)
    (hg : Derives .iff ts g) : f = g := by
  have hreadf := @Derives.ofTokens ⟨ts, 0⟩ f hf
  have hreadg := @Derives.ofTokens ⟨ts, 0⟩ g hg
  exact Except.ok.inj (hreadf.symm.trans hreadg)

/-- The reader finds a tree exactly if the grammar derives it, there is one such tree at most,
    and without one the reader names a token or the end of the tokens as what is wrong. A text
    is read exactly if it has tokens from which the grammar derives a tree. -/
theorem reader_accepts_grammar :
    (∀ (ts : Tokens) (f : Formula), Formula.ofTokens none ts = .ok f ↔ Derives .iff ts.items f) ∧
    (∀ (ts : List Token) (f g : Formula), Derives .iff ts f → Derives .iff ts g → f = g) ∧
    (∀ ts : Tokens, (¬ ∃ f, Derives .iff ts.items f) →
      ∃ found, ts.Finds found ∧ (Formula.ofTokens none ts = .error (.unexpected found) ∨
        Formula.ofTokens none ts = .error (.unclosed found))) ∧
    ∀ (s : String) (f : Formula), Formula.parseWithin none s = .ok f ↔
      ∃ ts, Tokens.ofText s = .ok ts ∧ Derives .iff ts.items f := by
  refine ⟨fun ts f => Formula.ofTokens_eq_ok, fun ts f g => Derives.unique, fun ts h => ?_,
    fun s f => Formula.parseWithin_eq_ok⟩
  cases hread : Formula.ofTokens none ts with
  | ok f => exact absurd ⟨f, Formula.ofTokens_eq_ok.1 hread⟩ h
  | error e =>
    obtain ⟨found, hfinds, he⟩ := Formula.ofTokens_error hread
    refine ⟨found, hfinds, ?_⟩
    rcases he with rfl | rfl
    · exact .inl rfl
    · exact .inr rfl

/-- The tokens of `(P` are no formula, and the reader misses the end of the parenthesis. -/
theorem reader_accepts_grammar_unclosed :
    (¬ ∃ f, Derives .iff [⟨.opening, "(", 0⟩, ⟨.atom, "P", 1⟩] f) ∧
    ∃ found, Tokens.Finds ⟨[⟨.opening, "(", 0⟩, ⟨.atom, "P", 1⟩], 2⟩ found ∧
      (Formula.ofTokens none ⟨[⟨.opening, "(", 0⟩, ⟨.atom, "P", 1⟩], 2⟩ =
          .error (.unexpected found) ∨
        Formula.ofTokens none ⟨[⟨.opening, "(", 0⟩, ⟨.atom, "P", 1⟩], 2⟩ =
          .error (.unclosed found)) := by
  have hnone : ¬ ∃ f, Derives .iff [⟨.opening, "(", 0⟩, ⟨.atom, "P", 1⟩] f := by
    rintro ⟨f, hf⟩
    cases (reader_accepts_grammar.1 ⟨[⟨.opening, "(", 0⟩, ⟨.atom, "P", 1⟩], 2⟩ f).2 hf
  exact ⟨hnone, reader_accepts_grammar.2.2.1 ⟨[⟨.opening, "(", 0⟩, ⟨.atom, "P", 1⟩], 2⟩ hnone⟩

end PropTutor
