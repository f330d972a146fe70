/-
  Formulas up to spelling.

  No two atoms of a formula stand side by side, so its blanks can be dropped. Hence a text with the
  normal spelling of a formula is that formula itself once its blanks are dropped, even where it has
  no tokens as it stands (`Formula.parse_withoutBlanks_of_normalSpelling`).
-/
import PropTutor.Proofs.Formula.Outcome
import PropTutor.Proofs.Token.Respelling

namespace PropTutor

/-! ## Blanks inside a formula -/

theorem Token.separated_nil : Token.Separated (([] : List Token).map Token.shape) := .nil

/-- What is no atom may stand between separated parts. -/
theorem Token.separated_join {ts us : List Token} {t : Token}
    (hts : Token.Separated (ts.map Token.shape)) (ht : t.kind ≠ .atom)
    (hus : Token.Separated (us.map Token.shape)) :
    Token.Separated ((ts ++ t :: us).map Token.shape) := by
  rw [← Token.fst_shape] at ht
  rw [List.map_append, List.map_cons]
  have hrest : Token.Separated (t.shape :: us.map Token.shape) :=
    List.isChain_cons.2 ⟨fun _ _ hatom => absurd hatom ht, hus⟩
  refine List.isChain_append.2 ⟨hts, hrest, ?_⟩
  intro _ _ y hy _
  obtain rfl : t.shape = y := Option.some.inj hy
  exact ht

/-- The grammar puts no two atoms side by side. -/
theorem Derives.separated {p : Phrase} {ts : List Token} {f : Formula} (h : Derives p ts f) :
    Token.Separated (ts.map Token.shape) := by
  have hjoin : ∀ {c : Connective} {t : Token}, t.Joins c → t.kind ≠ .atom :=
    fun ht hatom => nomatch ht.symm.trans hatom
  induction h with
  | iff_imp _ ih => exact ih
  | iff_join _ ht _ ihf ihg => exact Token.separated_join ihf (hjoin ht) ihg
  | imp_or _ ih => exact ih
  | imp_join _ ht _ ihf ihg => exact Token.separated_join ihf (hjoin ht) ihg
  | or_and _ ih => exact ih
  | or_join _ ht _ ihf ihg => exact Token.separated_join ihf (hjoin ht) ihg
  | and_un _ ih => exact ih
  | and_join _ ht _ ihf ihg => exact Token.separated_join ihf (hjoin ht) ihg
  | un_neg ht _ ih =>
    exact Token.separated_join Token.separated_nil (fun hatom => nomatch ht.symm.trans hatom) ih
  | un_prim _ ih => exact ih
  | prim_atom _ => exact .singleton _
  | prim_paren ht _ hu ih =>
    have hopen := Token.separated_join Token.separated_nil
      (fun hatom => nomatch ht.symm.trans hatom) ih
    exact Token.separated_join hopen (fun hatom => nomatch hu.symm.trans hatom)
      Token.separated_nil

namespace Formula

/-- A text that is a formula has a signature in which no two atoms stand side by side. -/
theorem exists_signature_of_parse {s : String} {f : Formula} (h : parse s = .ok f) :
    ∃ shapes, signature? s = some shapes ∧ Token.Separated shapes := by
  obtain ⟨ts, hts, hderives⟩ := parseWithin_eq_ok.1 (parseWithin_none_of_ok h)
  refine ⟨ts.items.map Token.shape, ?_, hderives.separated⟩
  rw [signature?, hts]

/-- A formula has the same signature without its blanks. -/
theorem signature?_withoutBlanks {s : String} {f : Formula} (h : parse s = .ok f) :
    signature? (withoutBlanks s) = signature? s := by
  obtain ⟨shapes, hshapes, hseparated⟩ := exists_signature_of_parse h
  rw [hshapes, signature?_eq, withoutBlanks, String.toList_ofList]
  exact Token.shapes?_filter (signature?_eq s ▸ hshapes) hseparated

/-- A text with the normal spelling of a formula is that formula once its blanks are dropped. -/
theorem parse_withoutBlanks_of_normalSpelling {s t : String} {f : Formula}
    (hst : normalSpelling s = normalSpelling t) (ht : parse t = .ok f) :
    parse (withoutBlanks s) = .ok f := by
  have hsignature : signature? (withoutBlanks s) = signature? t := by
    rw [← signature?_normalSpelling, hst, signature?_normalSpelling, signature?_withoutBlanks ht]
  exact (parse_congr hsignature).2 ht

/-- A text with the spelling of a formula is that formula, or it has no tokens and is that
    formula once its blanks are dropped. -/
theorem parse_of_sameSpelling {s t : String} {f : Formula} (hst : sameSpelling s t = true)
    (ht : parse t = .ok f) :
    parse s = .ok f ∨ signature? s = none ∧ parse (withoutBlanks s) = .ok f := by
  obtain ⟨shapes, hshapes, -⟩ := exists_signature_of_parse ht
  rw [sameSpelling, hshapes] at hst
  -- the other text has tokens, so the normal spellings count only if this one has none
  cases hs : signature? s with
  | some shapes' =>
    rw [hs] at hst
    have hsame : signature? s = signature? t := by rw [hs, hshapes, eq_of_beq hst]
    exact .inl ((parse_congr hsame).2 ht)
  | none =>
    rw [hs] at hst
    exact .inr ⟨rfl, parse_withoutBlanks_of_normalSpelling (eq_of_beq hst) ht⟩

end Formula

end PropTutor
