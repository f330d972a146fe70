/-
  The depth that a text needs.

  A limit of nesting lets a text be read as it is read without one, or it makes the text too deep,
  and it does nothing else. So every text has a least limit that is enough for it
  (`Formula.leastLimit`). What an operand needs does not depend on where it stands
  (`Phrase.exists_printsAt`), and behind a connective that groups to the left no level stays open.
  So a chain of such a connective needs what the deepest of its operands needs, however many
  operands it has (`Connective.Chain.max?_leastLimit`).
-/
import PropTutor.Proofs.Formula.FirstError
import PropTutor.Proofs.Formula.Outcome
import PropTutor.Proofs.Formula.RoundTrip
import PropTutor.Proofs.Token.Partition

namespace PropTutor

/-! ## The least limit -/

namespace Formula

/-- Only a limit makes a text too deep. -/
theorem parseWithin_none_ne_tooDeep (s : String) : parseWithin none s ≠ .error .tooDeep := by
  intro h
  cases hts : Tokens.ofText s with
  | error e =>
    obtain ⟨front, c, rest, -, ⟨-, -, rfl⟩, -⟩ := Tokens.stray_of_ofText hts
    rw [parseWithin_of_error hts] at h
    cases h
  | ok ts =>
    rw [parseWithin_of_ofText hts] at h
    exact ofTokens_ne_tooDeep ts h

theorem exists_sufficient (s : String) : ∃ n, parseWithin (some n) s = parseWithin none s := by
  obtain ⟨m, -, hite⟩ := exists_parseWithin_eq_ite s
  exact ⟨m, (hite m).trans (if_pos (Nat.le_refl m))⟩

/-- The least limit of nesting under which a text is read as without a limit. -/
def leastLimit (s : String) : Nat := Nat.find (exists_sufficient s)

variable {s : String} {f : Formula} {k : Nat}

theorem leastLimit_eq (h : ∀ n, parseWithin (some n) s =
    if k ≤ n then parseWithin none s else .error .tooDeep) : leastLimit s = k := by
  refine (Nat.find_eq_iff _).2 ⟨?_, fun n hn hread => ?_⟩
  · rw [h, if_pos (Nat.le_refl k)]
  · rw [h, if_neg (Nat.not_le.2 hn)] at hread
    exact parseWithin_none_ne_tooDeep s hread.symm

/-- Below the least limit a text is too deep, and from there on the limit does not matter. -/
theorem parseWithin_eq_ite (s : String) (n : Nat) : parseWithin (some n) s =
    if leastLimit s ≤ n then parseWithin none s else .error .tooDeep := by
  obtain ⟨m, -, hite⟩ := exists_parseWithin_eq_ite s
  rw [leastLimit_eq hite]
  exact hite n

theorem parseWithin_eq_tooDeep {n : Nat} :
    parseWithin (some n) s = .error .tooDeep ↔ n < leastLimit s := by
  rw [parseWithin_eq_ite]
  split
  · next hle => exact iff_of_false (parseWithin_none_ne_tooDeep s) (Nat.not_lt.2 hle)
  · next hle => exact iff_of_true rfl (Nat.lt_of_not_le hle)

theorem leastLimit_of_printsAt (h : Phrase.iff.PrintsAt s f k) : leastLimit s = k := by
  obtain ⟨hnone, hsome⟩ := parseWithin_of_printsAt h
  refine leastLimit_eq fun n => ?_
  rw [hnone]
  exact hsome n

/-- Negations nest as deep as one likes. -/
theorem exists_levels (n : Nat) : ∃ f : Formula, f.WellNamed ∧ f.isBinary = false ∧ f.levels = n := by
  induction n with
  | zero => exact ⟨.atom "P", by decide, rfl, rfl⟩
  | succ n ih =>
    obtain ⟨f, hf, hbinary, rfl⟩ := ih
    refine ⟨.neg f, hf, rfl, ?_⟩
    rw [levels, hbinary]
    rfl

/-- No limit is enough for all formulas. -/
theorem exists_tooDeep (n : Nat) :
    ∃ s f, parseWithin none s = .ok f ∧ parseWithin (some n) s = .error .tooDeep := by
  obtain ⟨f, hf, -, hlevels⟩ := exists_levels (n + 1)
  obtain ⟨hnone, hsome⟩ := parseWithin_of_printsAt (iff_printsAt_text hf)
  refine ⟨f.text, f, hnone, (hsome n).trans (if_neg ?_)⟩
  omega

end Formula

/-! ## Operands -/

/-- A text with tokens lays out tokens of the same shapes wherever it stands. -/
theorem LaysOut.of_ofText {s : String} {ts : Tokens} (h : Tokens.ofText s = .ok ts) :
    LaysOut s fun us => us.map Token.shape = ts.items.map Token.shape := by
  intro pos rest tail hrest htail
  have hscan := Token.shapes_scan 0 pos s.toList
  rw [Token.scan_eq_ok.2 (Tokens.ofText_eq_ok.1 h).1] at hscan
  cases hread : Token.scan 0 pos s.toList with
  | error e => rw [hread] at hscan; cases hscan
  | ok us =>
    rw [hread] at hscan
    exact ⟨us, (Token.scan_eq_ok.1 hread).append hrest htail, Option.some.inj hscan⟩

/-- Tokens of the same shapes have one tree at most. -/
theorem Derives.eq_of_shapes {p : Phrase} {ts us : List Token} {f g : Formula}
    (hf : Derives p ts f) (hg : Derives p us g)
    (h : us.map Token.shape = ts.map Token.shape) : g = f := by
  have hread : Formula.ofTokens none ⟨ts, 0⟩ = .ok f := (hf.loosen p.iff_level_le).ofTokens
  have hread' : Formula.ofTokens none ⟨us, 0⟩ = .ok g := (hg.loosen p.iff_level_le).ofTokens
  have hagree := @Formula.agree_ofTokens none ⟨us, 0⟩ ⟨ts, 0⟩ h
  exact Except.ok.inj ((hagree.eq_ok.1 hread').symm.trans hread)

/-- A text whose tokens are a phrase spells that phrase wherever it stands. -/
theorem Phrase.exists_printsAt {p : Phrase} {s : String} {ts : Tokens} {f : Formula}
    (htext : Tokens.ofText s = .ok ts) (hf : Derives p ts.items f) : ∃ k, p.PrintsAt s f k := by
  obtain ⟨k, hk⟩ := hf.exists_ofKinds
  refine ⟨k, (LaysOut.of_ofText htext).imp fun us hus => ?_⟩
  -- other offsets change neither the levels nor the tree
  have hkinds : us.map Token.kind = ts.items.map Token.kind := by
    have hfst := congrArg (List.map Prod.fst) hus
    simpa only [List.map_map, Function.comp_def, Token.fst_shape] using hfst
  obtain ⟨g, hg⟩ := hk us hkinds
  obtain rfl := hf.eq_of_shapes hg.derives hus
  exact hg

/-! ## Chains -/

theorem max?_concat {ks : List Nat} {k : Nat} (h : ks.max? = some k) (k' : Nat) :
    (ks ++ [k']).max? = some (max k k') := by
  cases ks with
  | nil => cases h
  | cons a ks =>
    rw [List.max?_cons'] at h
    rw [List.cons_append, List.max?_cons', List.foldl_append, Option.some.inj h]
    rfl

namespace Connective

/-- Without parentheses around it, the text may stand on the right of the connective. -/
def HasOperand (c : Connective) (x : String) : Prop :=
  ∃ ts f, Tokens.ofText x = .ok ts ∧ Derives c.rightPhrase ts.items f

/-- The text is a chain of these operands: between each two of them stands a spelling of the
    connective. Blanks may belong to the operands. -/
inductive Chain (c : Connective) : List String → String → Prop where
  | operand {x} : c.HasOperand x → Chain c [x] x
  | join {xs s w x} : Chain c xs s → w ∈ (Sign.binary c).spellings → c.HasOperand x →
      Chain c (xs ++ [x]) (s ++ w ++ x)

theorem leftPhrase_eq_phrase {c : Connective} (hc : c ≠ .implies) : c.leftPhrase = c.phrase := by
  cases c with
  | implies => exact absurd rfl hc
  | _ => rfl

theorem groupsRight_eq_false {c : Connective} (hc : c ≠ .implies) : c.groupsRight = false := by
  cases c with
  | implies => exact absurd rfl hc
  | _ => rfl

theorem phrase_level_le_rightPhrase (c : Connective) : c.phrase.level ≤ c.rightPhrase.level := by
  cases c <;> decide

variable {c : Connective} {xs : List String} {s x : String}

theorem HasOperand.exists_printsAt (h : c.HasOperand x) :
    ∃ g, c.rightPhrase.PrintsAt x g (Formula.leastLimit x) := by
  obtain ⟨ts, g, htext, hg⟩ := h
  obtain ⟨k, hk⟩ := Phrase.exists_printsAt htext hg
  rw [Formula.leastLimit_of_printsAt (hk.loosen c.rightPhrase.iff_level_le)]
  exact ⟨g, hk⟩

/-- A chain is a phrase of its connective, and its deepest operand decides on the levels. -/
theorem Chain.exists_printsAt (hc : c ≠ .implies) (h : c.Chain xs s) : ∃ f k,
    c.phrase.PrintsAt s f k ∧ (xs.map Formula.leastLimit).max? = some k := by
  induction h with
  | @operand x hx =>
    obtain ⟨g, hg⟩ := hx.exists_printsAt
    exact ⟨g, _, hg.loosen c.phrase_level_le_rightPhrase, rfl⟩
  | @join xs s w x _ hw hx ih =>
    obtain ⟨f, k, hf, hmax⟩ := ih
    obtain ⟨g, hg⟩ := hx.exists_printsAt
    -- the connective leaves no level open, so those of the chain and of the operand do not add up
    have hjoin := Phrase.PrintsAt.spelled hw ((leftPhrase_eq_phrase hc).symm ▸ hf) hg
    rw [groupsRight_eq_false hc] at hjoin
    refine ⟨_, _, hjoin, ?_⟩
    rw [List.map_append]
    exact max?_concat hmax _

/-- A chain is a formula, and it needs what the deepest of its operands needs. -/
theorem Chain.max?_leastLimit (hc : c ≠ .implies) (h : c.Chain xs s) :
    (∃ f, Formula.parseWithin none s = .ok f) ∧
      (xs.map Formula.leastLimit).max? = some (Formula.leastLimit s) := by
  obtain ⟨f, k, hf, hmax⟩ := h.exists_printsAt hc
  have hiff := hf.loosen c.phrase.iff_level_le
  rw [Formula.leastLimit_of_printsAt hiff]
  exact ⟨⟨f, (Formula.parseWithin_of_printsAt hiff).1⟩, hmax⟩

end Connective

/-! ## What a limit does -/

/-- Only the error of the limit has the name of depth. -/
theorem SyntaxError.token_eq_depth {e : SyntaxError} : e.token = "DEPTH" ↔ e = .tooDeep := by
  have hname (found : Found) : found.name ≠ "DEPTH" := by
    cases found with
    | token t =>
      intro h
      have hkind : t.kind.name = "DEPTH" := h
      exact absurd (hkind ▸ t.kind.name_mem) (by decide)
    | endOfInput pos => exact (by decide : "EOF" ≠ "DEPTH")
  cases e with
  | strayCharacter c pos => exact iff_of_false (by decide : "UNKNOWN" ≠ "DEPTH") nofun
  | unexpected found => exact iff_of_false (hname found) nofun
  | unclosed found => exact iff_of_false (hname found) nofun
  | tooDeep => exact iff_of_true rfl rfl

/-- A limit of nesting only ever replaces the outcome of reading a text by the error for depth,
    which is reported at the start of the text. A text without tokens has the same error under every
    limit. Any other text is too deep under a limit, or the outcome is the one without a limit,
    whether that is a formula or an error, and then it is the outcome under every higher limit. Every
    text has a limit that is enough for it, and no limit is enough for all texts. A chain of
    conjunctions, disjunctions or biconditionals is a formula, and the least limit that is enough for
    it is the greatest of those of its operands. -/
theorem limit_only_makes_texts_too_deep :
    (∀ s e, Tokens.ofText s = .error e →
      e.token = "UNKNOWN" ∧ ∀ limit, Formula.parseWithin limit s = .error e) ∧
    (∀ s ts, Tokens.ofText s = .ok ts → ∀ limit,
      Formula.parseWithin limit s = .error .tooDeep ∨
        Formula.parseWithin limit s = Formula.parseWithin none s) ∧
    ((∀ e : SyntaxError, e.token = "DEPTH" ↔ e = .tooDeep) ∧ SyntaxError.tooDeep.pos = 0) ∧
    (∀ s n, Formula.parseWithin (some n) s ≠ .error .tooDeep → ∀ m, n ≤ m →
      Formula.parseWithin (some m) s = Formula.parseWithin (some n) s) ∧
    (∀ s, Formula.parseWithin none s ≠ .error .tooDeep ∧
      ∃ n, Formula.parseWithin (some n) s = Formula.parseWithin none s) ∧
    (∀ n, ∃ s f, Formula.parseWithin none s = .ok f ∧
      Formula.parseWithin (some n) s = .error .tooDeep) ∧
    (∀ s n, Formula.parseWithin (some n) s = .error .tooDeep ↔ n < Formula.leastLimit s) ∧
    ∀ (c : Connective) xs s, c ≠ .implies → c.Chain xs s →
      (∃ f, Formula.parseWithin none s = .ok f) ∧
        (xs.map Formula.leastLimit).max? = some (Formula.leastLimit s) := by
  refine ⟨fun s e htext => ⟨?_, fun limit => ?_⟩, fun s ts _ limit => ?_,
    ⟨fun e => SyntaxError.token_eq_depth, rfl⟩, fun s n hn m hnm => ?_,
    fun s => ⟨Formula.parseWithin_none_ne_tooDeep s, Formula.exists_sufficient s⟩,
    Formula.exists_tooDeep, fun s n => Formula.parseWithin_eq_tooDeep,
    fun c xs s hc hchain => hchain.max?_leastLimit hc⟩
  · obtain ⟨front, c, rest, -, ⟨-, htoken, -⟩, -⟩ := Tokens.stray_of_ofText htext
    exact htoken
  · exact Formula.parseWithin_of_error htext
  · have hlimit : LimitLE limit none := trivial
    exact (Formula.parseWithin_of_limitLE hlimit s).imp_right Eq.symm
  · have hlimit : LimitLE (some n) (some m) := hnm
    exact (Formula.parseWithin_of_limitLE hlimit s).resolve_left hn

/-- A chain of three operands with two spellings of the conjunction, a text that breaks off, and one
    with a stray character in front of its parentheses. -/
theorem limit_only_makes_texts_too_deep_conjunctions :
    (Connective.Chain .and ["~~P ", " (Q)", "R"] "~~P & (Q)∧R" ∧
      (["~~P ", " (Q)", "R"].map Formula.leastLimit).max? =
        some (Formula.leastLimit "~~P & (Q)∧R")) ∧
    (Formula.parseWithin (some 1) "~(P" = .error .tooDeep ∧
      Formula.parseWithin (some 2) "~(P" = .error (.unclosed (.endOfInput 3)) ∧
      ∀ n, 2 ≤ n → Formula.parseWithin (some n) "~(P" = .error (.unclosed (.endOfInput 3))) ∧
    (Tokens.ofText "P ? ((Q" = .error (.strayCharacter '?' 2) ∧
      ∀ limit, Formula.parseWithin limit "P ? ((Q" = .error (.strayCharacter '?' 2)) := by
  have hneg : Connective.HasOperand .and "~~P " :=
    ⟨⟨[⟨.sign .neg, "~", 0⟩, ⟨.sign .neg, "~", 1⟩, ⟨.atom, "P", 2⟩], 4⟩, _, by decide,
      .un_neg rfl (.un_neg rfl (.un_prim (.prim_atom rfl)))⟩
  have hinside : Derives .iff [⟨.atom, "Q", 2⟩] (.atom "Q") :=
    .loosen (q := .prim) (by decide) (.prim_atom rfl)
  have hparen : Connective.HasOperand .and " (Q)" :=
    ⟨⟨⟨.opening, "(", 1⟩ :: [⟨.atom, "Q", 2⟩] ++ [⟨.closing, ")", 3⟩], 4⟩, _, by decide,
      .un_prim (.prim_paren rfl hinside rfl)⟩
  have hatom : Connective.HasOperand .and "R" :=
    ⟨⟨[⟨.atom, "R", 0⟩], 1⟩, _, by decide, .un_prim (.prim_atom rfl)⟩
  have hfirst := Connective.Chain.join (w := "&") (.operand hneg) (by decide) hparen
  have hchain := Connective.Chain.join (w := "∧") hfirst (by decide) hatom
  have htext : "~~P " ++ "&" ++ " (Q)" ++ "∧" ++ "R" = "~~P & (Q)∧R" := by decide
  rw [htext] at hchain
  have hread : Formula.parseWithin (some 2) "~(P" = .error (.unclosed (.endOfInput 3)) := by decide
  have hscan : Tokens.ofText "P ? ((Q" = .error (.strayCharacter '?' 2) := by decide
  obtain ⟨hstray, -, -, hhigher, -, -, -, hchains⟩ := limit_only_makes_texts_too_deep
  refine ⟨⟨hchain, (hchains .and _ _ (by decide) hchain).2⟩, ⟨by decide, hread, fun n hn => ?_⟩,
    hscan, (hstray _ _ hscan).2⟩
  rw [hhigher _ 2 (by rw [hread]; nofun) n hn, hread]

end PropTutor
