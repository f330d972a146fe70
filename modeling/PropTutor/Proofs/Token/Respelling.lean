/-
  Respelling the signs of a text.

  A sign becomes its display symbol and everything else stays. So a text and its respelling
  have the same signature, or neither has one (`Token.shapes?_respell`): a lexeme becomes a
  lexeme of the same shape, and a stray character stays stray, since no spelling that begins
  with it goes on with a display symbol.
-/
import PropTutor.Proofs.Token.Signature

namespace PropTutor

/-! ## Display symbols -/

namespace Sign

/-- A display symbol is one character. -/
theorem exists_symbol (s : Sign) : ∃ d, s.symbol.toList = [d] := by
  rcases s with _ | c
  · exact ⟨_, rfl⟩
  · cases c <;> exact ⟨_, rfl⟩

theorem symbol_mem_table (s : Sign) : (s.symbol.toList, s) ∈ table :=
  mem_table s.symbol_mem_spellings

/-- No spelling goes on with a display symbol. -/
theorem symbol_notMem {s t : Sign} {c d : Char} {ds : List Char} (hd : d ∈ s.symbol.toList)
    (h : (c :: ds, t) ∈ table) : d ∉ ds := by
  have hall : ∀ s ∈ all, ∀ entry ∈ table,
      s.symbol.toList.all (fun d => !entry.1.tail.contains d) = true := by
    decide
  simpa using List.all_eq_true.1 (hall s s.mem_all _ h) d hd

end Sign

/-! ## Respelling the parts of a text -/

theorem respell_append_skip (w rest : List Char) :
    respell w.length (w ++ rest) = respell 0 rest := by
  induction w with
  | nil => rfl
  | cons c w ih => exact ih

theorem respell_sign {s : Sign} {w : List Char} (h : (w, s) ∈ Sign.table) (rest : List Char) :
    respell 0 (w ++ rest) = s.symbol.toList ++ respell 0 rest := by
  have hhead := Sign.atHead?_append h rest
  obtain ⟨c, ds, rfl, -⟩ := Sign.exists_cons h
  rw [List.cons_append] at hhead ⊢
  rw [respell, hhead]
  exact congrArg _ (respell_append_skip ds rest)

theorem respell_cons {c : Char} {cs : List Char} (h : Sign.atHead? (c :: cs) = none) :
    respell 0 (c :: cs) = c :: respell 0 cs := by
  rw [respell, h]

/-- A text begins with a spelling, or with a character that stays as it is. -/
theorem respell_cases (c : Char) (cs : List Char) :
    (∃ (s : Sign) (rest : List Char), respell 0 (c :: cs) = s.symbol.toList ++ rest) ∨
      respell 0 (c :: cs) = c :: respell 0 cs := by
  cases hhead : Sign.atHead? (c :: cs) with
  | none => exact .inr (respell_cons hhead)
  | some entry =>
    obtain ⟨w, s⟩ := entry
    obtain ⟨hmem, rest, hrest⟩ := Sign.of_atHead? hhead
    exact .inl ⟨s, respell 0 rest, hrest ▸ respell_sign hmem rest⟩

/-- Characters with which no spelling begins stay as they are. -/
theorem respell_append {w : List Char} (h : ∀ c ∈ w, ∀ s ds, (c :: ds, s) ∉ Sign.table)
    (rest : List Char) : respell 0 (w ++ rest) = w ++ respell 0 rest := by
  induction w with
  | nil => rfl
  | cons c w ih =>
    have hnone : Sign.atHead? (c :: (w ++ rest)) = none :=
      Sign.atHead?_eq_none.2 fun s ds hmem _ => h c (List.mem_cons_self ..) s ds hmem
    rw [List.cons_append, respell_cons hnone, ih fun d hd => h d (List.mem_cons_of_mem _ hd)]
    rfl

theorem endsBefore_respell {kind : TokenKind} {rest : List Char} (h : kind.EndsBefore rest) :
    kind.EndsBefore (respell 0 rest) := by
  refine TokenKind.endsBefore_of_atom fun hkind => ?_
  subst hkind
  cases rest with
  | nil => exact h
  | cons c rest =>
    rcases respell_cases c rest with ⟨s, rest', hrest⟩ | hrest
    · obtain ⟨d, hd⟩ := s.exists_symbol
      rw [hrest, hd]
      intro e he
      obtain rfl : d = e := Option.some.inj he
      exact Sign.isAtomChar_eq_false (hd ▸ s.symbol_mem_table)
    · rw [hrest]
      exact h

/-- A respelling goes on without a display symbol only where the text does. -/
theorem prefix_of_prefix_respell {ds cs : List Char}
    (hds : ∀ s : Sign, ∀ d ∈ s.symbol.toList, d ∉ ds) (h : ds <+: respell 0 cs) : ds <+: cs := by
  induction ds generalizing cs with
  | nil => exact List.nil_prefix
  | cons d ds ih =>
    cases cs with
    | nil => exact absurd (List.prefix_nil.1 h) (by simp)
    | cons c cs =>
      rcases respell_cases c cs with ⟨s, rest, hrest⟩ | hrest
      · obtain ⟨e, he⟩ := s.exists_symbol
        rw [hrest, he] at h
        obtain ⟨rfl, -⟩ := List.cons_prefix_cons.1 h
        exact absurd (List.mem_cons_self ..) (hds s d (he ▸ List.mem_cons_self ..))
      · rw [hrest] at h
        obtain ⟨rfl, htail⟩ := List.cons_prefix_cons.1 h
        have hrec := ih (fun s e he hmem => hds s e he (List.mem_cons_of_mem _ hmem)) htail
        exact List.cons_prefix_cons.2 ⟨rfl, hrec⟩

/-! ## The signature of a respelling -/

/-- A lexeme is a spelling, or no spelling begins with any of its characters. -/
theorem Lexeme.sign_or_plain {kind : TokenKind} {w : List Char} (h : Lexeme kind w) :
    (∃ s, kind = .sign s ∧ (w, s) ∈ Sign.table) ∨
      ∀ c ∈ w, ∀ s ds, (c :: ds, s) ∉ Sign.table := by
  cases h with
  | atom hc hcs =>
    refine .inr fun d hd s ds hmem => ?_
    have hatom := (Lexeme.atom hc hcs).isAtomChar d hd
    rw [Sign.isAtomChar_eq_false hmem] at hatom
    cases hatom
  | opening =>
    refine .inr fun d hd s ds hmem => ?_
    obtain ⟨e, es, hcons, -, -, hne, -⟩ := Sign.exists_cons hmem
    exact hne ((List.cons.inj hcons).1 ▸ List.mem_singleton.1 hd)
  | closing =>
    refine .inr fun d hd s ds hmem => ?_
    obtain ⟨e, es, hcons, -, -, -, hne⟩ := Sign.exists_cons hmem
    exact hne ((List.cons.inj hcons).1 ▸ List.mem_singleton.1 hd)
  | @sign s _ hmem => exact .inl ⟨s, rfl, hmem⟩

namespace Token

/-- A text and its respelling have the same signature, or neither has one. -/
theorem shapes?_respell (cs : List Char) : shapes? (respell 0 cs) = shapes? cs := by
  induction cs using text_induction with
  | nil => rfl
  | blank c cs hc ih =>
    have hnone : Sign.atHead? (c :: cs) = none := by
      refine Sign.atHead?_eq_none.2 fun s ds hmem _ => ?_
      rw [(Lexeme.sign hmem).isBlank_eq_false c (List.mem_cons_self ..)] at hc
      cases hc
    rw [respell_cons hnone, shapes?_blank hc, shapes?_blank hc, ih]
  | lexeme kind w rest hlexeme hrest ih =>
    have hends := endsBefore_respell hrest
    rcases hlexeme.sign_or_plain with ⟨s, rfl, hmem⟩ | hplain
    · rw [respell_sign hmem, shapes?_lexeme (.sign s.symbol_mem_table) hends,
        shapes?_lexeme hlexeme hrest, ih]
      rfl
    · rw [respell_append hplain, shapes?_lexeme hlexeme hends, shapes?_lexeme hlexeme hrest, ih]
  | stray c cs hc hnone =>
    obtain ⟨-, -, -, hsign⟩ := atHead?_eq_none.1 hnone
    rw [respell_cons hsign]
    exact shapes?_stray_congr hc hnone fun s ds hmem hds =>
      prefix_of_prefix_respell (fun t d hd => Sign.symbol_notMem hd hmem) hds

end Token

/-- The text without its blanks. -/
def withoutBlanks (s : String) : String :=
  String.ofList (s.toList.filter fun c => !Text.isBlank c)

/-- The normal spelling of a text has the signature of the text without its blanks. -/
theorem signature?_normalSpelling (s : String) :
    signature? (normalSpelling s) = signature? (withoutBlanks s) := by
  rw [signature?_eq, signature?_eq, normalSpelling, withoutBlanks, String.toList_ofList,
    String.toList_ofList, Token.shapes?_respell]

end PropTutor
