/-
  Normal spellings.

  The normal spelling is made without tokens, from the characters that are left when the blanks are
  dropped. Where a text has tokens it is nevertheless the row of their display forms
  (`normalSpelling_eq_join`): no spelling is found across the end of a lexeme, also where a dropped
  blank kept two lexemes apart. A printed formula is its own normal spelling but for its spaces
  (`Formula.normalSpelling_text`). On every text, with tokens or without, a second respelling
  finds nothing to replace (`respell_respell`), since display symbols are part of no longer
  spelling.
-/
import PropTutor.Proofs.Formula.RoundTrip
import PropTutor.Proofs.Token.Respelling

namespace PropTutor

/-! ## Texts with tokens -/

/-- A lexeme is respelled as its display form, whatever follows it. -/
theorem Lexeme.respell_append {kind : TokenKind} {w : List Char} (h : Lexeme kind w)
    (rest : List Char) : respell 0 (w ++ rest) =
      (Token.shape ⟨kind, String.ofList w, 0⟩).2.toList ++ respell 0 rest := by
  rcases h.sign_or_plain with ⟨s, rfl, hmem⟩ | hplain
  · exact respell_sign hmem rest
  · rw [PropTutor.respell_append hplain]
    cases h with
    | atom _ _ => rw [Token.shape, String.toList_ofList]
    | opening => rfl
    | closing => rfl
    | @sign s _ hmem =>
      obtain ⟨c, ds, rfl, -⟩ := Sign.exists_cons hmem
      exact absurd hmem (hplain c (List.mem_cons_self ..) s ds)

/-- Without its blanks a text with tokens is respelled as the row of their display forms. -/
theorem Token.respell_filter {cs : List Char} {shapes : List (TokenKind × String)}
    (h : shapes? cs = some shapes) :
    respell 0 (cs.filter fun c => !Text.isBlank c) = shapes.flatMap fun shape => shape.2.toList := by
  induction cs using text_induction generalizing shapes with
  | nil =>
    obtain rfl : [] = shapes := Option.some.inj h
    rfl
  | blank c cs hc ih =>
    rw [shapes?_blank hc] at h
    rw [List.filter_cons_of_neg (by simp [hc])]
    exact ih h
  | lexeme kind w rest hlexeme hends ih =>
    rw [shapes?_lexeme hlexeme hends] at h
    obtain ⟨others, hothers, rfl⟩ := Option.map_eq_some_iff.1 h
    have hword : w.filter (fun c => !Text.isBlank c) = w :=
      List.filter_eq_self.2 fun c hc => by simp [hlexeme.isBlank_eq_false c hc]
    rw [List.filter_append, hword, hlexeme.respell_append, ih hothers, List.flatMap_cons]
  | stray c cs hc hnone =>
    rw [shapes?_stray hc hnone] at h
    cases h

/-- The normal spelling of a text with tokens is the row of their display forms. -/
theorem normalSpelling_eq_join {s : String} {shapes : List (TokenKind × String)}
    (h : signature? s = some shapes) : normalSpelling s = String.join (shapes.map Prod.snd) := by
  rw [signature?_eq] at h
  rw [normalSpelling, Token.respell_filter h, ← String.toList_inj, String.toList_ofList,
    String.toList_join, List.flatMap_map]

/-! ## Respelling twice -/

/-- Respelling a respelled text changes nothing. -/
theorem respell_respell (skip : Nat) (cs : List Char) :
    respell 0 (respell skip cs) = respell skip cs := by
  fun_induction respell skip cs with
  | case1 => rfl
  | case2 skip c cs ih => exact ih
  | case3 c cs value s hhead ih => rw [respell_sign s.symbol_mem_table, ih]
  | case4 c cs hnone ih =>
    have hnone' : Sign.atHead? (c :: respell 0 cs) = none :=
      Sign.atHead?_eq_none.2 fun s ds hmem hds => Sign.atHead?_eq_none.1 hnone s ds hmem
        (prefix_of_prefix_respell (fun t d hd => Sign.symbol_notMem hd hmem) hds)
    rw [respell_cons hnone', ih]

/-- Respelling brings in no characters but display symbols. -/
theorem mem_of_mem_respell {skip : Nat} {cs : List Char} {d : Char} (h : d ∈ respell skip cs) :
    d ∈ cs ∨ ∃ s : Sign, d ∈ s.symbol.toList := by
  fun_induction respell skip cs with
  | case1 => cases h
  | case2 skip c cs ih => exact (ih h).imp_left (List.mem_cons_of_mem c)
  | case3 c cs value s hhead ih =>
    rcases List.mem_append.1 h with hd | hd
    · exact .inr ⟨s, hd⟩
    · exact (ih hd).imp_left (List.mem_cons_of_mem c)
  | case4 c cs hnone ih =>
    rcases List.mem_cons.1 h with rfl | hd
    · exact .inl (List.mem_cons_self ..)
    · exact (ih hd).imp_left (List.mem_cons_of_mem c)

theorem Sign.isBlank_symbol {s : Sign} {d : Char} (hd : d ∈ s.symbol.toList) :
    Text.isBlank d = false :=
  (Lexeme.sign s.symbol_mem_table).isBlank_eq_false d hd

theorem normalSpelling_normalSpelling (s : String) :
    normalSpelling (normalSpelling s) = normalSpelling s := by
  have hblanks : ∀ d ∈ respell 0 (s.toList.filter fun c => !Text.isBlank c),
      (!Text.isBlank d) = true := by
    intro d hd
    rcases mem_of_mem_respell hd with hmem | ⟨t, hmem⟩
    · exact (List.mem_filter.1 hmem).2
    · rw [Sign.isBlank_symbol hmem]
      rfl
  rw [normalSpelling, normalSpelling, String.toList_ofList, List.filter_eq_self.2 hblanks,
    respell_respell]

/-- Texts that differ in their blanks only have the same normal spelling. -/
theorem normalSpelling_congr {s t : String} (h : withoutBlanks s = withoutBlanks t) :
    normalSpelling s = normalSpelling t := by
  have hfilter := congrArg String.toList h
  rw [withoutBlanks, withoutBlanks, String.toList_ofList, String.toList_ofList] at hfilter
  rw [normalSpelling, normalSpelling, hfilter]

/-! ## Printed formulas -/

/-- The character is no blank, and a respelling leaves it as it is wherever it stands. -/
def Verbatim (c : Char) : Prop :=
  Text.isBlank c = false ∧
    ((∀ s ds, (c :: ds, s) ∉ Sign.table) ∨ ∃ s : Sign, s.symbol.toList = [c])

theorem respell_of_verbatim {cs : List Char} (h : ∀ c ∈ cs, Verbatim c) : respell 0 cs = cs := by
  induction cs with
  | nil => rfl
  | cons c cs ih =>
    obtain ⟨⟨-, hc⟩, hcs⟩ := List.forall_mem_cons.1 h
    rcases hc with hplain | ⟨s, hs⟩
    · rw [respell_cons (Sign.atHead?_eq_none.2 fun s ds hmem _ => hplain s ds hmem), ih hcs]
    · have hsymbol := respell_sign s.symbol_mem_table cs
      rw [hs, ih hcs] at hsymbol
      exact hsymbol

theorem Lexeme.verbatim {kind : TokenKind} {w : List Char} (h : Lexeme kind w)
    (hkind : ∀ s, kind ≠ .sign s) : ∀ c ∈ w, Verbatim c := by
  rcases h.sign_or_plain with ⟨s, hs, -⟩ | hplain
  · exact absurd hs (hkind s)
  · exact fun c hc => ⟨h.isBlank_eq_false c hc, .inl (hplain c hc)⟩

theorem Sign.verbatim {s : Sign} : ∀ c ∈ s.symbol.toList, Verbatim c := by
  intro c hc
  obtain ⟨d, hd⟩ := s.exists_symbol
  have hsame : c = d := List.mem_singleton.1 (hd ▸ hc)
  exact ⟨isBlank_symbol hc, .inr ⟨s, hsame ▸ hd⟩⟩

namespace Formula

/-- The characters of a text are spaces and such as a respelling leaves as they are. -/
def PlainText (t : String) : Prop := ∀ c ∈ t.toList, c = ' ' ∨ Verbatim c

theorem PlainText.append {t u : String} (ht : PlainText t) (hu : PlainText u) :
    PlainText (t ++ u) := by
  intro c hc
  rw [String.toList_append, List.mem_append] at hc
  exact hc.elim (ht c) (hu c)

theorem PlainText.bracket {t : String} (ht : PlainText t) (brackets : Bool) :
    PlainText (Formula.bracket brackets t) := by
  have hopening : PlainText "(" := fun c hc => .inr (Lexeme.opening.verbatim nofun c hc)
  have hclosing : PlainText ")" := fun c hc => .inr (Lexeme.closing.verbatim nofun c hc)
  cases brackets with
  | false => exact ht
  | true => exact (hopening.append ht).append hclosing

theorem plainText_symbol (s : Sign) : PlainText s.symbol := fun c hc => .inr (Sign.verbatim c hc)

theorem plainText_text {f : Formula} (h : f.WellNamed) : PlainText f.text := by
  induction f with
  | atom n =>
    have hname := isAtomName_iff.1 (h n (List.mem_singleton_self n))
    exact fun c hc => .inr (hname.verbatim nofun c hc)
  | neg f ih => exact (plainText_symbol .neg).append ((ih h).bracket _)
  | bin c f g ihf ihg =>
    obtain ⟨hf, hg⟩ := wellNamed_bin.1 h
    have hspace : PlainText " " := fun c hc => .inl (List.mem_singleton.1 hc)
    have hsymbol := (hspace.append (plainText_symbol (.binary c))).append hspace
    exact (((ihf hf).bracket _).append hsymbol).append ((ihg hg).bracket _)

/-- The normal spelling of a printed formula is the text without its spaces. -/
theorem normalSpelling_text {f : Formula} (h : f.WellNamed) :
    normalSpelling f.text = String.ofList (f.text.toList.filter (· != ' ')) := by
  have hplain := plainText_text h
  have hspaces : (f.text.toList.filter fun c => !Text.isBlank c) =
      f.text.toList.filter (· != ' ') := by
    refine List.filter_congr fun c hc => ?_
    rcases hplain c hc with rfl | ⟨hblank, -⟩
    · decide
    · have hne : c ≠ ' ' := by
        rintro rfl
        exact absurd hblank (by decide)
      rw [hblank, bne_iff_ne.2 hne]
      rfl
  have hverbatim : ∀ c ∈ f.text.toList.filter (· != ' '), Verbatim c := by
    intro c hc
    obtain ⟨hmem, hne⟩ := List.mem_filter.1 hc
    exact (hplain c hmem).resolve_left (bne_iff_ne.1 hne)
  rw [normalSpelling, hspaces, respell_of_verbatim hverbatim]

end Formula

/-- The normal spelling of a text with tokens is the row of their display forms, so texts of one
    signature have one normal spelling. A printed formula whose atoms have names that can be typed
    has its text without the spaces for its normal spelling. And on all texts, also on those that
    have no tokens, a normal spelling is its own normal spelling, and blanks, wherever they are
    put in or taken out, do not matter. -/
theorem normal_spelling_agrees_with_tokens :
    (∀ s shapes, signature? s = some shapes →
      normalSpelling s = String.join (shapes.map Prod.snd)) ∧
    (∀ s t, signature? s = signature? t → signature? s ≠ none →
      normalSpelling s = normalSpelling t) ∧
    (∀ f : Formula, f.WellNamed →
      normalSpelling f.text = String.ofList (f.text.toList.filter (· != ' '))) ∧
    (∀ s, normalSpelling (normalSpelling s) = normalSpelling s) ∧
    ∀ s t, withoutBlanks s = withoutBlanks t → normalSpelling s = normalSpelling t := by
  refine ⟨fun s shapes => normalSpelling_eq_join, fun s t hst hsome => ?_,
    fun f => Formula.normalSpelling_text, normalSpelling_normalSpelling,
    fun s t => normalSpelling_congr⟩
  obtain ⟨shapes, hs⟩ := Option.ne_none_iff_exists'.1 hsome
  rw [normalSpelling_eq_join hs, normalSpelling_eq_join (hst ▸ hs)]

/-- Two atoms side by side lose the blank between them, and in a text without tokens two halves of a
    spelling meet when the blank between them is dropped. -/
theorem normal_spelling_agrees_with_tokens_split :
    (signature? "P Q <=>!P" =
        some [(.atom, "P"), (.atom, "Q"), (.sign (.binary .iff), "↔"), (.sign .neg, "¬"),
          (.atom, "P")] ∧
      normalSpelling "P Q <=>!P" = "PQ↔¬P") ∧
    (signature? "P^Q" = signature? "P & Q" ∧ signature? "P^Q" ≠ none ∧
      normalSpelling "P^Q" = normalSpelling "P & Q") ∧
    (Formula.WellNamed (.conj (.neg (.atom "P")) (.imp (.atom "Q") (.atom "P"))) ∧
      normalSpelling (Formula.conj (.neg (.atom "P")) (.imp (.atom "Q") (.atom "P"))).text =
        "¬P∧(Q→P)") ∧
    withoutBlanks "<- <- > Q" = withoutBlanks "<-<->Q" ∧
    normalSpelling "<- <- > Q" = normalSpelling "<-<->Q" ∧
    normalSpelling (normalSpelling "<- <- > Q") = normalSpelling "<- <- > Q" := by
  have hsignature : signature? "P Q <=>!P" = some [(.atom, "P"), (.atom, "Q"),
      (.sign (.binary .iff), "↔"), (.sign .neg, "¬"), (.atom, "P")] := by decide
  have hsame : signature? "P^Q" = signature? "P & Q" := by decide
  have hsome : signature? "P^Q" ≠ none := by decide
  have hnamed : Formula.WellNamed (.conj (.neg (.atom "P")) (.imp (.atom "Q") (.atom "P"))) := by
    decide
  have hblanks : withoutBlanks "<- <- > Q" = withoutBlanks "<-<->Q" := by decide
  obtain ⟨hjoin, hcongr, hprinted, hidempotent, hinsert⟩ := normal_spelling_agrees_with_tokens
  exact ⟨⟨hsignature, hjoin _ _ hsignature⟩, ⟨hsame, hsome, hcongr _ _ hsame hsome⟩,
    ⟨hnamed, hprinted _ hnamed⟩, hblanks, hinsert _ _ hblanks, hidempotent _⟩

end PropTutor
