/-
  Where a malformed text goes wrong.

  What the reader has taken can always be completed to a formula: by an atom, if an operand is
  missing, and by a closing parenthesis for each one that is open (`Reader.exists_closing`). And
  whether tokens are a phrase depends on their kinds only (`Derives.exists_of_kinds`), so a token
  that the reader refuses is refused in every formula. Hence an error marks the first token with
  which no formula goes on (`error_marks_first_impossible_token`). A formula is taken here as a
  text with its tokens (`Token.OfFormula`), so a completion is one that can be written down.
-/
import PropTutor.Proofs.Formula.Levels

namespace PropTutor

/-- The tokens are those of a text that is a formula, however deeply it nests. -/
def Token.OfFormula (ts : List Token) : Prop :=
  ∃ s stop f, Tokens.ofText s = .ok ⟨ts, stop⟩ ∧ Formula.parseWithin none s = .ok f

/-- The error marks this token, which follows the tokens before it. They begin a formula, and with
    a token of this kind behind them they begin none. -/
structure SyntaxError.Marks (e : SyntaxError) (before : List Token) (t : Token) : Prop where
  pos : e.pos = t.pos
  token : e.token = t.kind.name
  completable : ∃ us, Token.OfFormula (before ++ us)
  impossible : ∀ us, Token.OfFormula us →
    ¬ (before ++ [t]).map Token.kind <+: us.map Token.kind

/-- The error marks the end. The tokens begin a longer formula, but they are none themselves. -/
structure SyntaxError.MarksEnd (e : SyntaxError) (ts : Tokens) : Prop where
  pos : e.pos = ts.stop
  token : e.token = "EOF"
  completable : ∃ u us, Token.OfFormula (ts.items ++ u :: us)
  incomplete : ∀ us, Token.OfFormula us → us.map Token.kind ≠ ts.items.map Token.kind

/-- Tokens of the kinds of a phrase are a phrase of the same level. -/
theorem Derives.exists_of_kinds {p : Phrase} {ts us : List Token} {f : Formula}
    (h : Derives p ts f) (hus : us.map Token.kind = ts.map Token.kind) :
    ∃ g, Derives p us g := by
  obtain ⟨k, hk⟩ := h.exists_ofKinds
  exact (hk us hus).imp fun _ hg => hg.derives

namespace Reader

/-! ## Completions -/

theorem atEnd_negate (stack : List Frame) (f : Formula) :
    (negate stack f).atEnd = some (unwind stack f) := by
  induction stack generalizing f with
  | nil => rfl
  | cons frame stack ih =>
    cases frame with
    | neg => exact ih (.neg f)
    | paren => rfl
    | left c l => rfl

/-- Where an operand has just been completed, a closing parenthesis for each open one completes
    the formula. -/
theorem exists_closing {stack : List Frame} {f : Formula} {r : Reader} {us : List Token}
    (hr : r.atEnd = some (unwind stack f))
    (hus : us.map Token.kind = List.replicate (stack.count .paren) .closing) :
    ∃ r' g, r.takeAll us = .ok r' ∧ r'.atEnd = some ([], g) := by
  induction stack generalizing f r us with
  | nil =>
    obtain rfl := List.map_eq_nil_iff.1 hus
    exact ⟨r, f, rfl, hr⟩
  | cons frame stack ih =>
    cases frame with
    | neg =>
      have hne : Frame.neg ≠ .paren := nofun
      rw [List.count_cons_of_ne hne] at hus
      exact ih hr hus
    | left c l =>
      have hne : Frame.left c l ≠ .paren := nofun
      rw [List.count_cons_of_ne hne] at hus
      exact ih hr hus
    | paren =>
      rw [List.count_cons_self, List.replicate_succ] at hus
      obtain ⟨u, us, rfl, hu, hus⟩ := List.map_eq_cons_iff.1 hus
      obtain ⟨r', g, hrun, hend⟩ := ih (atEnd_negate stack f) hus
      refine ⟨r', g, ?_, hend⟩
      rw [takeAll_cons, step_closing hu hr]
      exact hrun

/-- Closing parentheses can be written behind every text. -/
theorem exists_lays_closing (pos n : Nat) : ∃ us, Lays pos (List.replicate n ')') us ∧
    us.map Token.kind = List.replicate n .closing := by
  induction n generalizing pos with
  | zero => exact ⟨[], .nil, rfl⟩
  | succ n ih =>
    obtain ⟨us, hlays, hus⟩ := ih (pos + 1)
    refine ⟨⟨.closing, String.ofList [')'], pos⟩ :: us, .token .closing trivial hlays, ?_⟩
    rw [List.map_cons, hus]
    rfl

theorem endsBefore_closing (n : Nat) : TokenKind.atom.EndsBefore (List.replicate n ')') := by
  cases n with
  | zero => nofun
  | succ n =>
    intro c hc
    obtain rfl : ')' = c := Option.some.inj hc
    decide

/-- A text is a formula if the reader has taken its tokens and nothing is left open. -/
theorem ofFormula_of_run {cs : List Char} {ts : List Token} {r : Reader} {g : Formula}
    (hcs : Lays 0 cs ts) (hrun : start.takeAll ts = .ok r) (hend : r.atEnd = some ([], g)) :
    Token.OfFormula ts := by
  have htext : Tokens.ofText (String.ofList cs) = .ok ⟨ts, (String.ofList cs).length⟩ :=
    Tokens.ofText_eq_ok.2 ⟨by rwa [String.toList_ofList], rfl⟩
  refine ⟨String.ofList cs, _, g, htext, ?_⟩
  have hread : Formula.ofTokens none ⟨ts, (String.ofList cs).length⟩ = .ok g := by
    rw [Formula.ofTokens_eq, hrun]
    exact finish_of_atEnd _ hend
  exact (Formula.parseWithin_of_ofText htext).trans hread

/-- Whatever the reader has taken begins a formula. -/
theorem exists_ofFormula {cs : List Char} {before : List Token} {r : Reader}
    (hcs : Lays 0 cs before) (hrun : start.takeAll before = .ok r) :
    ∃ us, Token.OfFormula (before ++ us) := by
  have complete {more : List Char} {us : List Token} {r' : Reader} {g : Formula}
      (hmore : TokenKind.atom.EndsBefore more) (hus : Lays (0 + cs.length) more us)
      (hr' : r.takeAll us = .ok r') (hend : r'.atEnd = some ([], g)) :
      Token.OfFormula (before ++ us) := by
    refine ofFormula_of_run (hcs.append hmore hus) ?_ hend
    rw [takeAll_append, hrun]
    exact hr'
  cases r with
  | operator stack f =>
    obtain ⟨us, hus, hkinds⟩ := exists_lays_closing (0 + cs.length) (stack.count .paren)
    obtain ⟨r', g, hr', hend⟩ := exists_closing (r := operator stack f) rfl hkinds
    exact ⟨us, complete (endsBefore_closing _) hus hr' hend⟩
  | operand stack =>
    -- the blank keeps the atom apart from what stands in front of it
    obtain ⟨us, hus, hkinds⟩ := exists_lays_closing (0 + cs.length + 1 + 1) (stack.count .paren)
    obtain ⟨r', g, hr', hend⟩ := exists_closing (atEnd_negate stack (.atom "P")) hkinds
    have hblank : Text.isBlank ' ' = true := by decide
    have hname : Lexeme .atom ['P'] := .atom (by decide) nofun
    have hatom : Lays (0 + cs.length + 1) ('P' :: List.replicate (stack.count .paren) ')')
        (⟨.atom, "P", 0 + cs.length + 1⟩ :: us) :=
      .token hname (endsBefore_closing _) hus
    refine ⟨_, complete (TokenKind.endsBefore_of_isBlank hblank _) (.blank hblank hatom) ?_ hend⟩
    rw [takeAll_cons, step_atom rfl]
    exact hr'

end Reader

/-! ## Refusals -/

/-- Tokens of the kinds of a formula are read. -/
theorem Token.OfFormula.exists_ofTokens {us : List Token} (h : Token.OfFormula us) {ts : Tokens}
    (hkinds : ts.items.map Token.kind = us.map Token.kind) :
    ∃ g, Formula.ofTokens none ts = .ok g := by
  obtain ⟨s, stop, f, htext, hread⟩ := h
  obtain ⟨vs, hvs, hf⟩ := Formula.parseWithin_eq_ok.1 hread
  obtain rfl : ⟨us, stop⟩ = vs := Except.ok.inj (htext.symm.trans hvs)
  obtain ⟨g, hg⟩ := hf.exists_of_kinds hkinds
  exact ⟨g, hg.ofTokens⟩

/-- The names of the kinds of token. -/
theorem TokenKind.name_mem (kind : TokenKind) :
    kind.name ∈ ["ATOM", "NOT", "AND", "OR", "IMPLIES", "IFF", "LPAREN", "RPAREN"] := by
  cases kind with
  | sign s =>
    cases s with
    | neg => decide
    | binary c => cases c <;> decide
  | _ => decide

theorem TokenKind.name_ne_eof (kind : TokenKind) : kind.name ≠ "EOF" := by
  intro h
  exact absurd (h ▸ kind.name_mem) (by decide)

namespace SyntaxError

variable {cs : List Char} {r : Reader} {e : SyntaxError}

/-- A token that is refused is marked. -/
theorem marks_of_step_error {before : List Token} {t : Token} (hcs : Lays 0 cs before)
    (hrun : Reader.start.takeAll before = .ok r) (hstep : r.step none t = .error e) :
    e.Marks before t := by
  have hfound := Reader.step_error hstep
  refine ⟨?_, ?_, Reader.exists_ofFormula hcs hrun, ?_⟩
  · rcases hfound with rfl | rfl <;> rfl
  · rcases hfound with rfl | rfl <;> rfl
  · -- a formula that began so would still be read with its tokens up to here replaced by these
    rintro us hus ⟨kinds, hkinds⟩
    obtain ⟨front, rest, rfl, hfront, -⟩ := List.map_eq_append_iff.1 hkinds.symm
    have hsame : (before ++ t :: rest).map Token.kind = (front ++ rest).map Token.kind := by
      simp only [List.map_append, List.map_cons, List.map_nil, hfront, List.append_assoc,
        List.cons_append, List.nil_append]
    obtain ⟨g, hg⟩ := @Token.OfFormula.exists_ofTokens _ hus ⟨before ++ t :: rest, 0⟩ hsame
    rw [Formula.ofTokens_eq, Reader.takeAll_append, hrun, Except.bind, Reader.takeAll_cons,
      hstep] at hg
    cases hg

/-- An end that is refused is marked. -/
theorem marksEnd_of_finish_error {ts : Tokens} (hcs : Lays 0 cs ts.items)
    (hrun : Reader.start.takeAll ts.items = .ok r) (hfinish : r.finish ts.stop = .error e) :
    e.MarksEnd ts := by
  have hfound := Reader.finish_error hfinish
  have hincomplete : ∀ us, Token.OfFormula us → us.map Token.kind ≠ ts.items.map Token.kind := by
    intro us hus hkinds
    obtain ⟨g, hg⟩ := hus.exists_ofTokens hkinds.symm
    rw [Formula.ofTokens_eq, hrun, Except.bind, hfinish] at hg
    cases hg
  refine ⟨?_, ?_, ?_, hincomplete⟩
  · rcases hfound with rfl | rfl <;> rfl
  · rcases hfound with rfl | rfl <;> rfl
  · obtain ⟨us, hus⟩ := Reader.exists_ofFormula hcs hrun
    cases us with
    | nil =>
      rw [List.append_nil] at hus
      exact absurd rfl (hincomplete ts.items hus)
    | cons u us => exact ⟨u, us, hus⟩

end SyntaxError

/-- An error under a limit of nesting is the error without one, unless it is the limit's own. -/
theorem Formula.ofTokens_none_of_error {limit : Option Nat} {ts : Tokens} {e : SyntaxError}
    (h : ofTokens limit ts = .error e) (hdeep : e ≠ .tooDeep) : ofTokens none ts = .error e := by
  have hlimit : LimitLE limit none := trivial
  rcases ofTokens_of_limitLE hlimit ts with htooDeep | hsame
  · rw [htooDeep] at h
    exact absurd (Except.error.inj h).symm hdeep
  · rw [hsame]
    exact h

/-- Where a text has tokens but is no formula, nesting apart, the error marks the first token with
    which no formula goes on: the tokens in front of it begin a formula, with it they begin none.
    If the error marks the end of the text, the text begins a longer formula. The end is named
    exactly if the position is the length of the text. -/
theorem error_marks_first_impossible_token {limit : Option Nat} {s : String} {ts : Tokens}
    {e : SyntaxError} (htext : Tokens.ofText s = .ok ts)
    (hread : Formula.parseWithin limit s = .error e) (hdeep : e ≠ .tooDeep) :
    ((∃ before t after, ts.items = before ++ t :: after ∧ e.Marks before t) ∨ e.MarksEnd ts) ∧
    (e.token = "EOF" ↔ e.pos = s.length) := by
  obtain ⟨hlays, hstop⟩ := Tokens.ofText_eq_ok.1 htext
  rw [Formula.parseWithin, htext] at hread
  have hnone := Formula.ofTokens_none_of_error hread hdeep
  rw [Formula.ofTokens_eq] at hnone
  cases hrun : Reader.start.takeAll ts.items with
  | error e' =>
    rw [hrun] at hnone
    obtain rfl : e' = e := Except.error.inj hnone
    obtain ⟨before, t, after, r, hitems, hbefore, hstep⟩ := Reader.takeAll_error hrun
    rw [hitems] at hlays
    obtain ⟨front, rest, hsplit, hrest, hpos, hfront⟩ := hlays.exists_split
    have hmarks := SyntaxError.marks_of_step_error hfront hbefore hstep
    refine ⟨.inl ⟨before, t, after, hitems, hmarks⟩, iff_of_false ?_ ?_⟩
    · rw [hmarks.token]
      exact t.kind.name_ne_eof
    · have hlength : s.length = front.length + rest.length := by
        rw [← String.length_toList, hsplit, List.length_append]
      have hbehind := List.length_pos_iff.2 hrest
      rw [hmarks.pos]
      omega
  | ok r =>
    rw [hrun] at hnone
    have hmarks := SyntaxError.marksEnd_of_finish_error hlays hrun hnone
    exact ⟨.inr hmarks, iff_of_true hmarks.token (hmarks.pos.trans hstop)⟩

/-- In `(P & )` the closing parenthesis is marked: `(P &` goes on to a formula, but not so. -/
theorem error_marks_first_impossible_token_operand :
    Tokens.ofText "(P & )" = .ok ⟨[⟨.opening, "(", 0⟩, ⟨.atom, "P", 1⟩,
      ⟨.sign (.binary .and), "&", 3⟩, ⟨.closing, ")", 5⟩], 6⟩ ∧
    Formula.parse "(P & )" = .error (.unexpected (.token ⟨.closing, ")", 5⟩)) ∧
    ∃ before after, [⟨.opening, "(", 0⟩, ⟨.atom, "P", 1⟩, ⟨.sign (.binary .and), "&", 3⟩,
        ⟨.closing, ")", 5⟩] = before ++ ⟨.closing, ")", 5⟩ :: after ∧
      (SyntaxError.unexpected (.token ⟨.closing, ")", 5⟩)).Marks before ⟨.closing, ")", 5⟩ := by
  have htext : Tokens.ofText "(P & )" = .ok ⟨[⟨.opening, "(", 0⟩, ⟨.atom, "P", 1⟩,
      ⟨.sign (.binary .and), "&", 3⟩, ⟨.closing, ")", 5⟩], 6⟩ := by decide
  have hread : Formula.parse "(P & )" = .error (.unexpected (.token ⟨.closing, ")", 5⟩)) := by
    decide
  refine ⟨htext, hread, ?_⟩
  obtain ⟨⟨before, t, after, hitems, hmarks⟩ | hend, -⟩ :=
    error_marks_first_impossible_token htext hread nofun
  · have hmem : t ∈ before ++ t :: after := List.mem_append_right _ (List.mem_cons_self ..)
    rw [← hitems] at hmem
    have hpos : t.pos = 5 := hmarks.pos.symm
    simp only [List.mem_cons, List.not_mem_nil, or_false] at hmem
    rcases hmem with rfl | rfl | rfl | rfl
    · cases hpos
    · cases hpos
    · cases hpos
    · exact ⟨before, after, hitems, hmarks⟩
  · exact absurd hend.token (by decide)

end PropTutor
