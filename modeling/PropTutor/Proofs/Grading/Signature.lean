/-
  Formula answers are graded by their tokens.

  All that the graders of formulas ask of a text is told by its signature: whether it has the
  spelling of an accepted formula (`sameSpelling_congr`), also where that one has no tokens and the
  normal spellings are compared, which formula it is, and at which kind of token it is no formula
  (`Formula.parse_cases`). So two answers whose texts have one signature end with the same result,
  but for the place and the wording of a syntax error (`GradingResult.Alike`). A text has the
  signature of another one if it writes the tokens of that in any of their spellings and with any
  blanks that keep atoms apart (`Piece.signature?_text`), and the list of its tokens joins to such a
  text.
-/
import PropTutor.Proofs.Formula.NormalSpelling
import PropTutor.Proofs.Formula.Outcome
import PropTutor.Proofs.Grading.Matching
import PropTutor.Proofs.Grading.Verdict
import PropTutor.Proofs.Text.Blank
import PropTutor.Proofs.Token.Partition

namespace PropTutor

/-! ## Results -/

/-- The assignment that the details of a result report, on which the answer is wrong. -/
def Details.counterexample? : Details → Option Assignment
  | counterexample a => some a
  | _ => none

/-- The kind of token at which the details of a result report a syntax error. -/
def Details.errorToken? : Details → Option String
  | syntaxError _ token => some token
  | _ => none

/-- The results say the same, but for the place and the wording of a syntax error. -/
structure GradingResult.Alike (r r' : GradingResult) : Prop where
  isCorrect : r'.isCorrect = r.isCorrect
  score : r'.score = r.score
  explanation : r'.explanation = r.explanation
  found : r'.details.match? = r.details.match?
  inForm : r'.details.inForm? = r.details.inForm?
  counterexample : r'.details.counterexample? = r.details.counterexample?
  errorToken : r'.details.errorToken? = r.details.errorToken?
  eq_of_formula : r.details.errorToken? = none → r' = r

theorem GradingResult.Alike.refl (r : GradingResult) : r.Alike r :=
  ⟨rfl, rfl, rfl, rfl, rfl, rfl, rfl, fun _ => rfl⟩

theorem Grading.alike_syntaxErrorResult {error error' : SyntaxError}
    (h : error.token = error'.token) (explanation : Option String) :
    (syntaxErrorResult error explanation).Alike (syntaxErrorResult error' explanation) where
  isCorrect := rfl
  score := rfl
  explanation := rfl
  found := rfl
  inForm := rfl
  counterexample := rfl
  errorToken := congrArg some h.symm
  eq_of_formula := nofun

/-- Under any settings the exercise gives both answers results that say the same, but for the place
    and the wording of a syntax error. -/
def Exercise.GradesAlike (e : Exercise) (answer answer' : Json) : Prop :=
  ∀ s, ∃ r r', (e.grade answer).Gives s r ∧ (e.grade answer').Gives s r' ∧ r.Alike r'

/-- The exercise asks for a formula. -/
def Exercise.AsksFormula (e : Exercise) : Prop :=
  e.kind = .equivalence ∨ e.kind = .formulation ∨ e.kind = .symbolArrangement ∨
    e.kind = .normalForm

/-! ## What a signature tells -/

/-- The errors were noticed at tokens of one kind. -/
def SyntaxError.SameToken (e e' : SyntaxError) : Prop := e.token = e'.token

/-- Texts of one signature are read as one formula, or they fail at tokens of one kind. -/
theorem Formula.parse_cases {s t : String} (h : signature? t = signature? s)
    (hsome : signature? s ≠ none) : (∃ f, parse s = .ok f ∧ parse t = .ok f) ∨
      ∃ e e', parse s = .error e ∧ parse t = .error e' ∧ e.SameToken e' := by
  obtain ⟨ts, us, hagree⟩ := exists_agree_parseWithin (some nestingLimit) h.symm hsome
  rw [parse, parse]
  generalize parseWithin (some nestingLimit) s = x at hagree
  generalize parseWithin (some nestingLimit) t = y at hagree
  cases hagree with
  | ok f => exact .inl ⟨f, rfl, rfl⟩
  | @error e e' hplace =>
    refine .inr ⟨e, e', rfl, rfl, ?_⟩
    rcases hplace.reports with ⟨rfl, rfl⟩ | ⟨_, _, _, _, _, _, _, htoken⟩
    · rfl
    · exact htoken

/-- Texts of one signature have the same spelling as the same texts, with tokens or without. -/
theorem sameSpelling_congr {s t : String} (h : signature? t = signature? s)
    (hsome : signature? s ≠ none) : sameSpelling t = sameSpelling s := by
  obtain ⟨shapes, hs⟩ := Option.ne_none_iff_exists'.1 hsome
  have ht := h.trans hs
  have hnormal : normalSpelling t = normalSpelling s := by
    rw [normalSpelling_eq_join ht, normalSpelling_eq_join hs]
  funext u
  rw [sameSpelling, sameSpelling, hs, ht, hnormal]

/-! ## The graders -/

namespace Grading

variable {explanation : Option String} {answer answer' : Json} {text text' : String}

theorem demand_ok_bind {α β : Type} (x : α) (f : α → Action β) : demand (.ok x) >>= f = f x := rfl

/-- Matching ends in the same way, or with errors at tokens of one kind. -/
theorem relates_matchAccepted (accepted : List String) (h : signature? text' = signature? text)
    (hsome : signature? text ≠ none) :
    (matchAccepted accepted text).Relates (Agree SyntaxError.SameToken)
      (matchAccepted accepted text') := by
  have hspelling := sameSpelling_congr h hsome
  have hrefl : ∀ v : Except SyntaxError (Option Match), Agree SyntaxError.SameToken v v := by
    intro v
    cases v with
    | ok found => exact .ok found
    | error e => exact .error rfl
  unfold matchAccepted
  rw [hspelling]
  split
  · exact Action.relates_refl hrefl _
  · rcases Formula.parse_cases h hsome with ⟨student, hs, ht⟩ | ⟨e, e', hs, ht, htoken⟩
    · rw [hs, ht]
      exact Action.relates_refl hrefl _
    · rw [hs, ht]
      exact Action.relates_pure (.error htoken)

theorem relates_equivalence (content key : EquivalenceTarget)
    (htext : Answer.formula answer = .ok text) (htext' : Answer.formula answer' = .ok text')
    (h : signature? text' = signature? text) (hsome : signature? text ≠ none) :
    (equivalence content key explanation answer).Relates GradingResult.Alike
      (equivalence content key explanation answer') := by
  unfold equivalence
  rw [htext, htext']
  refine Action.relates_bind_left _ fun target => ?_
  rw [demand_ok_bind, demand_ok_bind]
  rcases Formula.parse_cases h hsome with ⟨student, hs, ht⟩ | ⟨e, e', hs, ht, htoken⟩
  · rw [hs, ht]
    exact Action.relates_refl GradingResult.Alike.refl _
  · rw [hs, ht]
    exact Action.relates_pure (alike_syntaxErrorResult htoken explanation)

theorem relates_acceptedFormula (key : AcceptedFormulas)
    (htext : Answer.formula answer = .ok text) (htext' : Answer.formula answer' = .ok text')
    (h : signature? text' = signature? text) (hsome : signature? text ≠ none) :
    (acceptedFormula key explanation answer).Relates GradingResult.Alike
      (acceptedFormula key explanation answer') := by
  unfold acceptedFormula
  rw [htext, htext', demand_ok_bind, demand_ok_bind]
  refine Action.relates_bind (relates_matchAccepted key.formulas h hsome) fun v v' hv => ?_
  cases hv with
  | ok found => exact Action.relates_refl GradingResult.Alike.refl _
  | error htoken => exact Action.relates_pure (alike_syntaxErrorResult htoken explanation)

theorem relates_normalForm (content : NormalFormContent) (key : AcceptedFormulas)
    (htext : Answer.formula answer = .ok text) (htext' : Answer.formula answer' = .ok text')
    (h : signature? text' = signature? text) (hsome : signature? text ≠ none) :
    (normalForm content key explanation answer).Relates GradingResult.Alike
      (normalForm content key explanation answer') := by
  -- the shape of the answer is asked of the formula, which is the same
  have hformula : (Formula.parse text').toOption = (Formula.parse text).toOption := by
    rcases Formula.parse_cases h hsome with ⟨student, hs, ht⟩ | ⟨e, e', hs, ht, -⟩
    · rw [hs, ht]
    · rw [hs, ht]
      rfl
  unfold normalForm
  rw [htext, htext', demand_ok_bind, demand_ok_bind]
  refine Action.relates_bind (relates_matchAccepted key.formulas h hsome) fun v v' hv => ?_
  cases hv with
  | ok found =>
    dsimp only
    rw [hformula]
    exact Action.relates_refl GradingResult.Alike.refl _
  | error htoken => exact Action.relates_pure (alike_syntaxErrorResult htoken explanation)

/-- Answers whose texts have one signature are evaluated alike. -/
theorem relates_evaluate {e : Exercise} (hkind : e.AsksFormula)
    (htext : Answer.formula answer = .ok text) (htext' : Answer.formula answer' = .ok text')
    (h : signature? text' = signature? text) (hsome : signature? text ≠ none) :
    (evaluate e answer).Relates GradingResult.Alike (evaluate e answer') := by
  obtain ⟨task, explanation⟩ := e
  cases task with
  | equivalence content key => exact relates_equivalence content key htext htext' h hsome
  | symbolArrangement content key => exact relates_acceptedFormula key htext htext' h hsome
  | formulation content key => exact relates_acceptedFormula key htext htext' h hsome
  | normalForm content key => exact relates_normalForm content key htext htext' h hsome
  | _ => rcases hkind with hkind | hkind | hkind | hkind <;> cases hkind

end Grading

/-- Answers whose texts have one signature are graded alike. -/
theorem Exercise.gradesAlike_of_signature {e : Exercise} (hkind : e.AsksFormula)
    {answer answer' : Json} {text text' : String} (htext : Answer.formula answer = .ok text)
    (htext' : Answer.formula answer' = .ok text') (h : signature? text' = signature? text)
    (hsome : signature? text ≠ none) : e.GradesAlike answer answer' := by
  intro s
  rcases Grading.relates_evaluate hkind htext htext' h hsome s with
    ⟨r, r', hr, hr', halike⟩ | ⟨failure, hfails, hfails'⟩
  · exact ⟨r, r', gives_grade.2 (.inl hr), gives_grade.2 (.inl hr'), halike⟩
  · exact ⟨Grading.failed failure, Grading.failed failure,
      gives_grade.2 (.inr ⟨failure, hfails, rfl⟩), gives_grade.2 (.inr ⟨failure, hfails', rfl⟩),
      .refl _⟩

/-! ## Tokens written again -/

namespace Piece

/-- The pieces write the tokens again: a sign in any spelling, any other token as it is, and blanks
    wherever they like. -/
inductive Respells : List Token → List Piece → Prop where
  | nil : Respells [] []
  | blank {ts : List Token} {pieces : List Piece} (c : Char) :
      Respells ts pieces → Respells ts (.blank c :: pieces)
  | sign {ts : List Token} {pieces : List Piece} {s : Sign} (value value' : String) (pos : Nat) :
      Respells ts pieces →
      Respells (⟨.sign s, value, pos⟩ :: ts) (.lexeme (.sign s) value' :: pieces)
  | same {ts : List Token} {pieces : List Piece} (t : Token) :
      Respells ts pieces → Respells (t :: ts) (.lexeme t.kind t.value :: pieces)

theorem shapes_tokens {ts : List Token} {pieces : List Piece} (h : Respells ts pieces)
    (pos : Nat) : (tokens pos pieces).map Token.shape = ts.map Token.shape := by
  induction h generalizing pos with
  | nil => rfl
  | blank c _ ih => exact ih (pos + 1)
  | @sign _ _ s value value' _ _ ih =>
    exact congrArg ((TokenKind.sign s, s.symbol) :: ·) (ih (pos + value'.length))
  | same t _ ih => exact congrArg (t.shape :: ·) (ih (pos + t.value.length))

/-- A text that writes the tokens of another one again has its signature. -/
theorem signature?_text {s : String} {ts : Tokens} {pieces : List Piece}
    (hts : Tokens.ofText s = .ok ts) (hpieces : Interleaved pieces)
    (h : Respells ts.items pieces) : signature? (text pieces) = signature? s := by
  have hs : signature? s = some (ts.items.map Token.shape) := signature?_eq_some.2 ⟨ts, hts, rfl⟩
  rw [hs]
  exact signature?_eq_some.2 ⟨_, ofText_text hpieces, shapes_tokens h 0⟩

end Piece

/-- Words determine shapes. -/
theorem Token.shapes_of_words {ts us : List Token} (h : us.map word = ts.map word) :
    us.map shape = ts.map shape := by
  have hshape : ∀ t : Token, t.shape = shape ⟨t.word.1, t.word.2, 0⟩ := fun _ => rfl
  have hmap : ∀ ts : List Token,
      ts.map shape = (ts.map word).map fun w => shape ⟨w.1, w.2, 0⟩ := fun ts => by
    rw [List.map_map]
    rfl
  rw [hmap, hmap, h]

/-! ## Shapes of answers -/

/-- The answer that lists the values of tokens. -/
def Answer.ofTokens (ts : List Token) : Json := .list (ts.map fun t => .str t.value)

theorem Answer.texts?_map_str (texts : List String) : texts? (texts.map Json.str) = some texts := by
  induction texts with
  | nil => rfl
  | cons t texts ih =>
    rw [texts?] at ih
    rw [texts?, List.map_cons, List.mapM_cons, ih]
    rfl

theorem Lexeme.strip_eq_self {kind : TokenKind} {value : String}
    (h : Lexeme kind value.toList) : Text.strip value = value := by
  rw [Text.strip, Text.trimWith_eq_self h.isBlank_eq_false, String.ofList_toList]

/-- Listed tokens are joined by single spaces. -/
theorem Answer.formula_ofTokens {ts : List Token} (h : ∀ t ∈ ts, Lexeme t.kind t.value.toList) :
    formula (ofTokens ts) = .ok (" ".intercalate (ts.map Token.value)) := by
  have htexts : texts? (ts.map fun t => Json.str t.value) = some (ts.map Token.value) := by
    rw [← texts?_map_str, List.map_map]
    rfl
  have hstrip : (ts.map Token.value).map Text.strip = ts.map Token.value := by
    rw [List.map_map]
    exact List.map_congr_left fun t ht => (h t ht).strip_eq_self
  rw [ofTokens, formula, htexts]
  dsimp only
  rw [hstrip]

/-- The listed tokens of a text have its signature. -/
theorem signature?_spaced {s : String} {ts : Tokens} (hts : Tokens.ofText s = .ok ts) :
    signature? (" ".intercalate (ts.items.map Token.value)) = signature? s := by
  obtain ⟨hlays, -⟩ := Tokens.ofText_eq_ok.1 hts
  obtain ⟨us, hus, hwords⟩ := Lays.exists_spaced (fun t ht => hlays.lexeme ht) 0
  have hs : signature? s = some (ts.items.map Token.shape) := signature?_eq_some.2 ⟨ts, hts, rfl⟩
  rw [hs]
  exact signature?_eq_some.2
    ⟨⟨us, _⟩, Tokens.ofText_eq_ok.2 ⟨hus, rfl⟩, Token.shapes_of_words hwords⟩

/-- Whatever answers a text has been read from, those with one signature are graded alike. So the
    list of the tokens of a text is graded like the text, and so is any text that writes these
    tokens with other spellings of the signs and other blanks. -/
theorem formula_answers_graded_by_tokens {e : Exercise} (hkind : e.AsksFormula) :
    (∀ answer answer' text text', Answer.formula answer = .ok text →
      Answer.formula answer' = .ok text' → signature? text' = signature? text →
      signature? text ≠ none → e.GradesAlike answer answer') ∧
    ∀ text ts, Tokens.ofText text = .ok ts →
      e.GradesAlike (.str text) (Answer.ofTokens ts.items) ∧
      ∀ pieces, Piece.Interleaved pieces → Piece.Respells ts.items pieces →
        e.GradesAlike (.str text) (.str (Piece.text pieces)) := by
  refine ⟨fun answer answer' text text' htext htext' h hsome =>
    e.gradesAlike_of_signature hkind htext htext' h hsome, fun text ts hts => ?_⟩
  have hsome : signature? (Text.strip text) ≠ none := by
    rw [signature?_strip, signature?_eq_some.2 ⟨ts, hts, rfl⟩]
    nofun
  refine ⟨?_, fun pieces hpieces hrespells => ?_⟩
  · have hlexeme := (Tokens.partition_of_ofText hts).lexeme
    refine e.gradesAlike_of_signature hkind rfl (Answer.formula_ofTokens hlexeme) ?_ hsome
    rw [signature?_strip, signature?_spaced hts]
  · refine e.gradesAlike_of_signature hkind rfl rfl ?_ hsome
    rw [signature?_strip, signature?_strip, Piece.signature?_text hts hpieces hrespells]

/-- A contraposition in an object and with other spellings, and a text with an arrow too many, as
    the list of its tokens and without most of its blanks. -/
theorem formula_answers_graded_by_tokens_respelled :
    (acceptingExercise ["P -> Q"]).AsksFormula ∧
    (Answer.formula (.str "~Q -> ~P") = .ok "~Q -> ~P" ∧
      Answer.formula (.object [("formula", .str " !Q=>¬P")]) = .ok "!Q=>¬P" ∧
      signature? "!Q=>¬P" = signature? "~Q -> ~P" ∧ signature? "~Q -> ~P" ≠ none ∧
      (acceptingExercise ["P -> Q"]).GradesAlike (.str "~Q -> ~P")
        (.object [("formula", .str " !Q=>¬P")])) ∧
    Tokens.ofText "P -> -> Q" = .ok ⟨[⟨.atom, "P", 0⟩, ⟨.sign (.binary .implies), "->", 2⟩,
      ⟨.sign (.binary .implies), "->", 5⟩, ⟨.atom, "Q", 8⟩], 9⟩ ∧
    (acceptingExercise ["P -> Q"]).GradesAlike (.str "P -> -> Q")
      (.list [.str "P", .str "->", .str "->", .str "Q"]) ∧
    (Piece.Interleaved [.lexeme .atom "P", .lexeme (.sign (.binary .implies)) "=>",
        .lexeme (.sign (.binary .implies)) "->", .blank '\u3000', .lexeme .atom "Q"] ∧
      (acceptingExercise ["P -> Q"]).GradesAlike (.str "P -> -> Q") (.str "P=>->\u3000Q")) := by
  have hkind : (acceptingExercise ["P -> Q"]).AsksFormula := .inr (.inl rfl)
  have htext : Answer.formula (.str "~Q -> ~P") = .ok "~Q -> ~P" := rfl
  have htext' : Answer.formula (.object [("formula", .str " !Q=>¬P")]) = .ok "!Q=>¬P" := rfl
  have hsame : signature? "!Q=>¬P" = signature? "~Q -> ~P" := by decide
  have hsome : signature? "~Q -> ~P" ≠ none := by decide
  have htokens : Tokens.ofText "P -> -> Q" = .ok ⟨[⟨.atom, "P", 0⟩,
      ⟨.sign (.binary .implies), "->", 2⟩, ⟨.sign (.binary .implies), "->", 5⟩, ⟨.atom, "Q", 8⟩],
      9⟩ := by decide
  have hpieces : Piece.Interleaved [.lexeme .atom "P", .lexeme (.sign (.binary .implies)) "=>",
      .lexeme (.sign (.binary .implies)) "->", .blank '\u3000', .lexeme .atom "Q"] := by
    refine ⟨?_, ?_⟩
    · have hatom {c : Char} (hc : isAtomStart c = true) : Lexeme .atom [c] := .atom hc nofun
      have hblank : Text.isBlank '\u3000' = true := by decide
      simp only [List.forall_mem_cons, List.not_mem_nil, false_imp_iff, implies_true, and_true]
      exact ⟨hatom (by decide), .sign (by decide), .sign (by decide), hblank, hatom (by decide)⟩
    · simp [Piece.IsAtom]
  have hrespells : Piece.Respells [⟨.atom, "P", 0⟩, ⟨.sign (.binary .implies), "->", 2⟩,
      ⟨.sign (.binary .implies), "->", 5⟩, ⟨.atom, "Q", 8⟩]
      [.lexeme .atom "P", .lexeme (.sign (.binary .implies)) "=>",
        .lexeme (.sign (.binary .implies)) "->", .blank '\u3000', .lexeme .atom "Q"] :=
    .same ⟨.atom, "P", 0⟩ (.sign "->" "=>" 2 (.sign "->" "->" 5
      (.blank '\u3000' (.same ⟨.atom, "Q", 8⟩ .nil))))
  have hjoined : Piece.text [.lexeme .atom "P", .lexeme (.sign (.binary .implies)) "=>",
      .lexeme (.sign (.binary .implies)) "->", .blank '\u3000', .lexeme .atom "Q"] =
      "P=>->\u3000Q" := by decide
  have hgraded := formula_answers_graded_by_tokens hkind
  obtain ⟨hlist, htexts⟩ := hgraded.2 _ _ htokens
  have hpacked := htexts _ hpieces hrespells
  rw [hjoined] at hpacked
  exact ⟨hkind, ⟨htext, htext', hsame, hsome, hgraded.1 _ _ _ _ htext htext' hsame hsome⟩, htokens,
    hlist, hpieces, hpacked⟩

end PropTutor
