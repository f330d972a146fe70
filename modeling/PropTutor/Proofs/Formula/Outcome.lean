/-
  Texts of one signature have one outcome.

  The reader looks at the shape of a token only, and a token that it refuses it refuses in every
  spelling and at every offset (`Reader.agree_step`). So two rows of tokens of the same shapes lead,
  step by step, to the same reader or to errors at the same place (`Reader.agree_run`), whatever
  the limit of nesting. Two texts of one signature are therefore the same formula, or both nest too
  deeply, or what is wrong with the one stands where it stands in the other
  (`one_signature_one_outcome`). Too deep a nesting is reported at no token
  (`deep_errors_stand_at_no_token`).
-/
import PropTutor.Proofs.Formula.Nesting
import PropTutor.Token.Spelling

namespace PropTutor

/-- Two computations have the same value, or they fail with errors that belong together. -/
inductive Agree {ε α : Type} (together : ε → ε → Prop) : Except ε α → Except ε α → Prop where
  | ok (a : α) : Agree together (.ok a) (.ok a)
  | error {e e' : ε} : together e e' → Agree together (.error e) (.error e')

/-- What stands at each place of a text: its tokens one after the other, and then its end. -/
def Tokens.places (ts : Tokens) : List Found := ts.items.map .token ++ [.endOfInput ts.stop]

/-- Two errors of one kind in two rows of places: what is found wrong has the same place and the
    same name in both. Too deep a nesting has no place. -/
inductive SyntaxError.SamePlace (as bs : List Found) : SyntaxError → SyntaxError → Prop where
  | unexpected {i : Nat} {a b : Found} : as[i]? = some a → bs[i]? = some b → a.name = b.name →
      SamePlace as bs (.unexpected a) (.unexpected b)
  | unclosed {i : Nat} {a b : Found} : as[i]? = some a → bs[i]? = some b → a.name = b.name →
      SamePlace as bs (.unclosed a) (.unclosed b)
  | tooDeep : SamePlace as bs .tooDeep .tooDeep

/-- The error has the offset of what was found, and its name. -/
def SyntaxError.Reports (e : SyntaxError) (found : Found) : Prop :=
  e.pos = found.pos ∧ e.token = found.name

namespace Agree

variable {ε α β : Type} {R S : ε → ε → Prop} {x y : Except ε α}

theorem bind {f g : α → Except ε β} (h : Agree R x y) (hfg : ∀ a, Agree R (f a) (g a)) :
    Agree R (x >>= f) (y >>= g) := by
  cases h with
  | ok a => exact hfg a
  | error he => exact .error he

theorem mono (hRS : ∀ e e', R e e' → S e e') (h : Agree R x y) : Agree S x y := by
  cases h with
  | ok a => exact .ok a
  | error he => exact .error (hRS _ _ he)

theorem eq_ok (h : Agree R x y) {a : α} : x = .ok a ↔ y = .ok a := by
  cases h with
  | ok b => exact Iff.rfl
  | error _ => exact iff_of_false nofun nofun

end Agree

/-! ## Shapes of tokens -/

theorem Token.fst_shape (t : Token) : t.shape.1 = t.kind := by
  unfold shape
  split <;> rfl

/-- Tokens of one shape are of one kind, and atoms among them have one name. -/
theorem Token.of_shape_eq {t u : Token} (h : t.shape = u.shape) :
    t.kind = u.kind ∧ (t.kind = .atom → t.value = u.value) := by
  have hkind : t.kind = u.kind := by rw [← fst_shape, ← fst_shape, h]
  refine ⟨hkind, fun hatom => ?_⟩
  have hvalue := congrArg Prod.snd h
  unfold shape at hvalue
  rw [← hkind, hatom] at hvalue
  exact hvalue

/-- A text has a signature if it has tokens, and then it consists of their shapes. -/
theorem signature?_eq_some {s : String} {shapes : List (TokenKind × String)} :
    signature? s = some shapes ↔
      ∃ ts, Tokens.ofText s = .ok ts ∧ ts.items.map Token.shape = shapes := by
  unfold signature?
  cases Tokens.ofText s with
  | error e => exact iff_of_false nofun fun ⟨_, hne, _⟩ => nomatch hne
  | ok ts =>
    refine ⟨fun h => ⟨ts, rfl, Option.some.inj h⟩, ?_⟩
    rintro ⟨us, hus, rfl⟩
    rw [Except.ok.inj hus]

/-! ## Places -/

namespace SyntaxError

variable {as bs : List Found} {e e' : SyntaxError}

/-- One more place in front of both rows moves both errors alike. -/
theorem SamePlace.cons (a b : Found) (h : SamePlace as bs e e') :
    SamePlace (a :: as) (b :: bs) e e' := by
  cases h with
  | @unexpected i _ _ ha hb hname => exact .unexpected (i := i + 1) ha hb hname
  | @unclosed i _ _ ha hb hname => exact .unclosed (i := i + 1) ha hb hname
  | tooDeep => exact .tooDeep

/-- Errors at the same place report what stands there in either row, unless they report too deep a
    nesting. -/
theorem SamePlace.reports (h : SamePlace as bs e e') : e = .tooDeep ∧ e' = .tooDeep ∨
    ∃ (i : Nat) (a b : Found), as[i]? = some a ∧ bs[i]? = some b ∧ e.Reports a ∧ e'.Reports b ∧
      e.token = e'.token := by
  cases h with
  | unexpected ha hb hname => exact .inr ⟨_, _, _, ha, hb, ⟨rfl, rfl⟩, ⟨rfl, rfl⟩, hname⟩
  | unclosed ha hb hname => exact .inr ⟨_, _, _, ha, hb, ⟨rfl, rfl⟩, ⟨rfl, rfl⟩, hname⟩
  | tooDeep => exact .inl ⟨rfl, rfl⟩

/-- What cannot follow an operand is misplaced in the same way wherever it stands. -/
theorem samePlace_misplaced {i : Nat} {a b : Found} (ha : as[i]? = some a) (hb : bs[i]? = some b)
    (hname : a.name = b.name) (stack : List Frame) :
    SamePlace as bs (Reader.misplaced stack a) (Reader.misplaced stack b) := by
  unfold Reader.misplaced
  split
  · exact .unclosed ha hb hname
  · exact .unexpected ha hb hname

end SyntaxError

namespace Reader

open SyntaxError (SamePlace samePlace_misplaced)

/-! ## Two runs -/

theorem agree_push (limit : Option Nat) (frame : Frame) (stack : List Frame) (as bs : List Found) :
    Agree (SamePlace as bs) (push limit frame stack) (push limit frame stack) := by
  unfold push
  cases limit with
  | none => exact .ok _
  | some n =>
    dsimp only
    split
    · exact .error .tooDeep
    · exact .ok _

/-- Tokens of one shape lead from one reader to one reader, or both are refused. -/
theorem agree_step (limit : Option Nat) (r : Reader) {t u : Token} (h : t.shape = u.shape)
    (as bs : List Found) :
    Agree (SamePlace (.token t :: as) (.token u :: bs)) (step limit r t) (step limit r u) := by
  obtain ⟨hkind, hvalue⟩ := Token.of_shape_eq h
  have ht0 : (Found.token t :: as)[0]? = some (.token t) := rfl
  have hu0 : (Found.token u :: bs)[0]? = some (.token u) := rfl
  have hname : (Found.token t).name = (Found.token u).name := congrArg TokenKind.name hkind
  cases r with
  | operand stack =>
    cases ht : t.kind with
    | atom =>
      simp only [step, ← hkind, ht, hvalue ht]
      exact .ok _
    | opening =>
      simp only [step, ← hkind, ht]
      exact agree_push ..
    | closing =>
      simp only [step, ← hkind, ht]
      exact .error (.unexpected ht0 hu0 hname)
    | sign s =>
      cases s with
      | neg =>
        simp only [step, ← hkind, ht]
        exact agree_push ..
      | binary c =>
        simp only [step, ← hkind, ht]
        exact .error (.unexpected ht0 hu0 hname)
  | operator stack f =>
    have hmisplaced := samePlace_misplaced ht0 hu0 hname stack
    cases ht : t.kind with
    | atom =>
      simp only [step, ← hkind, ht]
      exact .error hmisplaced
    | opening =>
      simp only [step, ← hkind, ht]
      exact .error hmisplaced
    | closing =>
      simp only [step, ← hkind, ht]
      split
      · exact .ok _
      · exact .error (.unexpected ht0 hu0 hname)
    | sign s =>
      cases s with
      | neg =>
        simp only [step, ← hkind, ht]
        exact .error hmisplaced
      | binary c =>
        simp only [step, ← hkind, ht]
        exact agree_push ..

/-- Rows of tokens of the same shapes lead to the same reader, or to errors at the same place. -/
theorem agree_run (limit : Option Nat) (r : Reader) {ts us : List Token}
    (h : ts.map Token.shape = us.map Token.shape) (as bs : List Found) :
    Agree (SamePlace (ts.map .token ++ as) (us.map .token ++ bs)) (ts.foldlM (step limit) r)
      (us.foldlM (step limit) r) := by
  induction ts generalizing r us with
  | nil =>
    obtain rfl := List.map_eq_nil_iff.1 h.symm
    exact .ok r
  | cons t ts ih =>
    obtain ⟨u, us, rfl, hu, hus⟩ := List.map_eq_cons_iff.1 h.symm
    rw [List.foldlM_cons, List.foldlM_cons]
    refine (agree_step limit r hu.symm _ _).bind fun r' => ?_
    exact (ih r' hus.symm).mono fun _ _ he => he.cons _ _

theorem agree_finish {as bs : List Found} {i stop stop' : Nat}
    (ha : as[i]? = some (.endOfInput stop)) (hb : bs[i]? = some (.endOfInput stop'))
    (r : Reader) : Agree (SamePlace as bs) (r.finish stop) (r.finish stop') := by
  cases r with
  | operand stack => exact .error (.unexpected ha hb rfl)
  | operator stack f =>
    rw [finish, finish]
    split
    · exact .ok _
    · exact .error (.unclosed ha hb rfl)

end Reader

namespace Formula

/-- Tokens of the same shapes are read as the same formula, or with errors at the same place. -/
theorem agree_ofTokens (limit : Option Nat) {ts us : Tokens}
    (h : ts.items.map Token.shape = us.items.map Token.shape) :
    Agree (SyntaxError.SamePlace ts.places us.places) (ofTokens limit ts) (ofTokens limit us) := by
  have hlength : ts.items.length = us.items.length := by
    have hmap := congrArg List.length h
    rwa [List.length_map, List.length_map] at hmap
  have hlast (vs : Tokens) : vs.places[vs.items.length]? = some (.endOfInput vs.stop) := by
    rw [Tokens.places, List.getElem?_append_right (by rw [List.length_map]), List.length_map,
      Nat.sub_self]
    rfl
  refine (Reader.agree_run limit Reader.start h _ _).bind fun r => ?_
  exact Reader.agree_finish (hlast ts) (hlength ▸ hlast us) r

/-- Texts of one signature are read as the same formula, or with errors at the same place. -/
theorem exists_agree_parseWithin (limit : Option Nat) {s t : String}
    (h : signature? s = signature? t) (hsome : signature? s ≠ none) :
    ∃ ts us : Tokens, Agree (SyntaxError.SamePlace ts.places us.places) (parseWithin limit s)
      (parseWithin limit t) := by
  obtain ⟨shapes, hshapes⟩ := Option.ne_none_iff_exists'.1 hsome
  obtain ⟨ts, hs, hts⟩ := signature?_eq_some.1 hshapes
  obtain ⟨us, ht, hus⟩ := signature?_eq_some.1 (h ▸ hshapes)
  rw [parseWithin_of_ofText hs, parseWithin_of_ofText ht]
  exact ⟨ts, us, agree_ofTokens limit (hts.trans hus.symm)⟩

/-- Only texts with a signature are read. -/
theorem signature?_ne_none_of_parse {s : String} {f : Formula} (h : parse s = .ok f) :
    signature? s ≠ none := by
  obtain ⟨ts, hts, -⟩ := parseWithin_eq_ok.1 (parseWithin_none_of_ok h)
  rw [signature?_eq_some.2 ⟨ts, hts, rfl⟩]
  exact Option.some_ne_none _

/-- Texts of one signature are read as one formula, or none of them is read. -/
theorem parse_congr {s t : String} (h : signature? s = signature? t) {f : Formula} :
    parse s = .ok f ↔ parse t = .ok f := by
  by_cases hsome : signature? s = none
  · refine iff_of_false (fun hread => ?_) fun hread => ?_
    · exact signature?_ne_none_of_parse hread hsome
    · exact signature?_ne_none_of_parse hread (h.symm.trans hsome)
  · obtain ⟨ts, us, hagree⟩ := exists_agree_parseWithin (some nestingLimit) h hsome
    exact hagree.eq_ok

end Formula

/-- Two texts of one signature are the same formula, or they fail alike: the error of each reports
    what stands at one and the same place among its tokens and their end, under the same name. Under
    a limit of nesting it is also possible that both nest too deeply. -/
theorem one_signature_one_outcome {s t : String} (h : signature? s = signature? t)
    (hsome : signature? s ≠ none) (limit : Option Nat) :
    ∃ ts us, Tokens.ofText s = .ok ts ∧ Tokens.ofText t = .ok us ∧
      ((∃ f, Formula.parseWithin limit s = .ok f ∧ Formula.parseWithin limit t = .ok f) ∨
        (∃ (e e' : SyntaxError) (i : Nat) (a b : Found),
          Formula.parseWithin limit s = .error e ∧ Formula.parseWithin limit t = .error e' ∧
          ts.places[i]? = some a ∧ us.places[i]? = some b ∧ e.Reports a ∧ e'.Reports b ∧
          e.token = e'.token) ∨
        limit ≠ none ∧ Formula.parseWithin limit s = .error .tooDeep ∧
          Formula.parseWithin limit t = .error .tooDeep) := by
  obtain ⟨shapes, hshapes⟩ := Option.ne_none_iff_exists'.1 hsome
  obtain ⟨ts, hs, hts⟩ := signature?_eq_some.1 hshapes
  obtain ⟨us, ht, hus⟩ := signature?_eq_some.1 (h ▸ hshapes)
  refine ⟨ts, us, hs, ht, ?_⟩
  have hagree := Formula.agree_ofTokens limit (hts.trans hus.symm)
  have hreads : Formula.parseWithin limit s = Formula.ofTokens limit ts := by
    rw [Formula.parseWithin, hs]
    rfl
  have hreadt : Formula.parseWithin limit t = Formula.ofTokens limit us := by
    rw [Formula.parseWithin, ht]
    rfl
  rw [hreads, hreadt]
  cases hread : Formula.ofTokens limit ts with
  | ok f => exact .inl ⟨f, rfl, hagree.eq_ok.1 hread⟩
  | error e =>
    rw [hread] at hagree
    generalize hread' : Formula.ofTokens limit us = outcome at hagree
    obtain _ | hplace := hagree
    rcases hplace.reports with ⟨rfl, rfl⟩ | ⟨i, a, b, ha, hb, hreports⟩
    · refine .inr (.inr ⟨?_, rfl, rfl⟩)
      rintro rfl
      exact Formula.ofTokens_ne_tooDeep ts hread
    · exact .inr (.inl ⟨_, _, i, a, b, rfl, rfl, ha, hb, hreports⟩)

/-- Two spellings of one malformed text, both refused at their conjunction. -/
theorem one_signature_one_outcome_conjunction :
    signature? "(P => & Q)" = signature? " ( P→∧Q)" ∧ signature? "(P => & Q)" ≠ none ∧
    Formula.parse "(P => & Q)" =
      .error (.unexpected (.token ⟨.sign (.binary .and), "&", 6⟩)) ∧
    Formula.parse " ( P→∧Q)" = .error (.unexpected (.token ⟨.sign (.binary .and), "∧", 5⟩)) ∧
    ∃ (ts us : Tokens) (i : Nat) (a b : Found),
      Tokens.ofText "(P => & Q)" = .ok ts ∧ Tokens.ofText " ( P→∧Q)" = .ok us ∧
      ts.places[i]? = some a ∧ us.places[i]? = some b ∧
      (SyntaxError.unexpected (.token ⟨.sign (.binary .and), "&", 6⟩)).Reports a ∧
      (SyntaxError.unexpected (.token ⟨.sign (.binary .and), "∧", 5⟩)).Reports b := by
  have hsame : signature? "(P => & Q)" = signature? " ( P→∧Q)" := by decide
  have hsome : signature? "(P => & Q)" ≠ none := by decide
  have hs : Formula.parse "(P => & Q)" =
      .error (.unexpected (.token ⟨.sign (.binary .and), "&", 6⟩)) := by decide
  have ht : Formula.parse " ( P→∧Q)" =
      .error (.unexpected (.token ⟨.sign (.binary .and), "∧", 5⟩)) := by decide
  refine ⟨hsame, hsome, hs, ht, ?_⟩
  obtain ⟨ts, us, hts, hus, houtcome⟩ :=
    one_signature_one_outcome hsame hsome (some Formula.nestingLimit)
  rcases houtcome with ⟨f, hf, -⟩ | ⟨e, e', i, a, b, he, he', ha, hb, hea, heb, -⟩ | ⟨-, hdeep, -⟩
  · cases hs.symm.trans hf
  · obtain rfl := Except.error.inj (hs.symm.trans he)
    obtain rfl := Except.error.inj (ht.symm.trans he')
    exact ⟨ts, us, i, a, b, hts, hus, ha, hb, hea, heb⟩
  · cases hs.symm.trans hdeep

/-! ## Deep texts -/

/-- So many negations of the atom `P`. -/
def negations (n : Nat) : List Char := List.replicate n '~' ++ ['P']

theorem Lays.exists_negations (pos n : Nat) : ∃ ts us, Lays pos (negations n) (ts ++ us) ∧
    ts.map Token.kind = List.replicate n (.sign .neg) ∧
    (ts ++ us).map Token.shape = List.replicate n (.sign .neg, "¬") ++ [(.atom, "P")] := by
  induction n generalizing pos with
  | zero =>
    have hatom : Lexeme .atom ['P'] := .atom (by decide) nofun
    exact ⟨[], [⟨.atom, "P", pos⟩], .token hatom nofun .nil, rfl, rfl⟩
  | succ n ih =>
    obtain ⟨ts, us, hlays, hkinds, hshapes⟩ := ih (pos + 1)
    have hsign : Lexeme (.sign .neg) ['~'] := .sign (by decide)
    refine ⟨⟨.sign .neg, "~", pos⟩ :: ts, us, .token hsign trivial hlays, ?_, ?_⟩
    · rw [List.map_cons, hkinds]
      rfl
    · rw [List.cons_append, List.map_cons, hshapes]
      rfl

theorem Lays.behind_blanks {pos : Nat} {front cs : List Char} {ts : List Token}
    (hfront : ∀ c ∈ front, Text.isBlank c = true) (h : Lays (pos + front.length) cs ts) :
    Lays pos (front ++ cs) ts := by
  induction front generalizing pos with
  | nil => exact h
  | cons c front ih =>
    obtain ⟨hc, hfront⟩ := List.forall_mem_cons.1 hfront
    have hpos : pos + (c :: front).length = pos + 1 + front.length := by
      rw [List.length_cons]
      omega
    rw [hpos] at h
    exact .blank hc (ih hfront h)

/-- More negations than the limit of nesting are too deep behind any blanks. Their tokens have
    always the same shapes, and none of them stands among the blanks. -/
theorem Formula.parse_negations (front : List Char) (hfront : ∀ c ∈ front, Text.isBlank c = true)
    {n : Nat} (h : nestingLimit < n) :
    ∃ ts, Tokens.ofText (String.ofList (front ++ negations n)) = .ok ts ∧
      (∀ found ∈ ts.places, front.length ≤ found.pos) ∧
      ts.items.map Token.shape = List.replicate n (.sign .neg, "¬") ++ [(.atom, "P")] ∧
      parse (String.ofList (front ++ negations n)) = .error .tooDeep := by
  obtain ⟨ts, us, hlays, hkinds, hshapes⟩ := Lays.exists_negations (0 + front.length) n
  have htext : Tokens.ofText (String.ofList (front ++ negations n)) =
      .ok ⟨ts ++ us, (front ++ negations n).length⟩ := by
    refine Tokens.ofText_eq_ok.2 ⟨?_, String.length_ofList.symm⟩
    rw [String.toList_ofList]
    exact .behind_blanks hfront hlays
  have hrun : (ts ++ us).foldlM (Reader.step (some nestingLimit)) Reader.start =
      .error .tooDeep :=
    Reader.run_negations hkinds (Nat.zero_le _) (by simpa using h)
  refine ⟨_, htext, fun found hfound => ?_, hshapes, ?_⟩
  · rcases List.mem_append.1 hfound with hmem | hmem
    · obtain ⟨t, ht, rfl⟩ := List.mem_map.1 hmem
      have hpos := hlays.le_pos ht
      show front.length ≤ t.pos
      omega
    · rw [List.mem_singleton.1 hmem]
      show front.length ≤ (front ++ negations n).length
      rw [List.length_append]
      omega
  · rw [parse, parseWithin_of_ofText htext, ofTokens, hrun]
    rfl

/-- Five thousand negations of an atom nest too deeply, with a blank in front and without. Both
    errors have the start of their text for an offset, where the blank stands and no token. -/
theorem deep_errors_stand_at_no_token :
    signature? (String.ofList (negations 5000)) =
      signature? (String.ofList (' ' :: negations 5000)) ∧
    signature? (String.ofList (negations 5000)) ≠ none ∧
    Formula.parse (String.ofList (negations 5000)) = .error .tooDeep ∧
    Formula.parse (String.ofList (' ' :: negations 5000)) = .error .tooDeep ∧
    ¬ ∃ ts us, Tokens.ofText (String.ofList (negations 5000)) = .ok ts ∧
      Tokens.ofText (String.ofList (' ' :: negations 5000)) = .ok us ∧
      ((∃ f, Formula.parse (String.ofList (negations 5000)) = .ok f ∧
          Formula.parse (String.ofList (' ' :: negations 5000)) = .ok f) ∨
        ∃ (e e' : SyntaxError) (i : Nat) (a b : Found),
          Formula.parse (String.ofList (negations 5000)) = .error e ∧
          Formula.parse (String.ofList (' ' :: negations 5000)) = .error e' ∧
          ts.places[i]? = some a ∧ us.places[i]? = some b ∧ e.pos = a.pos ∧ e'.pos = b.pos ∧
          e.token = e'.token) := by
  have hdeep : Formula.nestingLimit < 5000 := by decide
  obtain ⟨ts, hs, -, hts, hreads⟩ := Formula.parse_negations [] nofun hdeep
  obtain ⟨us, ht, hplaces, hus, hreadt⟩ :=
    Formula.parse_negations [' '] (List.forall_mem_singleton.2 (by decide)) hdeep
  rw [List.nil_append] at hs hreads
  rw [List.singleton_append] at ht hreadt
  have hsignature := signature?_eq_some.2 ⟨ts, hs, hts⟩
  have hsignature' := signature?_eq_some.2 ⟨us, ht, hus⟩
  refine ⟨hsignature.trans hsignature'.symm, ?_, hreads, hreadt, ?_⟩
  · rw [hsignature]
    exact Option.some_ne_none _
  · rintro ⟨ts', us', -, ht', ⟨f, hf, -⟩ | ⟨e, e', i, a, b, -, he', -, hb, -, hpos, -⟩⟩
    · cases hreads.symm.trans hf
    · obtain rfl := Except.ok.inj (ht.symm.trans ht')
      obtain rfl := Except.error.inj (hreadt.symm.trans he')
      have hle := hplaces b (List.mem_of_getElem? hb)
      rw [← hpos] at hle
      exact absurd hle (by decide)

end PropTutor
