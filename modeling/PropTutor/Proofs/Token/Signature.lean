/-
  What the signature of a text depends on.

  A text is empty, or it begins with a blank, with a lexeme or with a stray character
  (`text_induction`). The signature is computed along these four cases: a blank changes
  nothing, a lexeme adds its shape, and a stray character leaves no signature at all. Offsets
  have no part in it. So blanks at the ends of a text do not matter, and neither do those
  inside, unless they keep two atoms apart (`shapes?_filter`).
-/
import Mathlib.Data.List.Chain
import PropTutor.Proofs.Token.Layout
import PropTutor.Token.Spelling

namespace PropTutor

/-! ## The parts of a text -/

theorem Lexeme.isAtomChar {w : List Char} (h : Lexeme .atom w) : ∀ c ∈ w, isAtomChar c = true := by
  cases h with
  | atom hc hcs =>
    intro d hd
    rcases List.mem_cons.1 hd with rfl | hd
    · exact isAtomChar_of_isAtomStart hc
    · exact hcs d hd

/-- There are no blanks inside a token. -/
theorem Lexeme.isBlank_eq_false {kind : TokenKind} {w : List Char} (h : Lexeme kind w) :
    ∀ c ∈ w, Text.isBlank c = false := by
  cases h with
  | atom hc hcs => exact fun d hd => isBlank_of_isAtomChar ((Lexeme.atom hc hcs).isAtomChar d hd)
  | opening =>
    intro d hd
    rw [List.mem_singleton.1 hd]
    decide
  | closing =>
    intro d hd
    rw [List.mem_singleton.1 hd]
    decide
  | @sign s _ hmem =>
    have hall : ∀ entry ∈ Sign.table, entry.1.all (fun c => !Text.isBlank c) = true := by decide
    intro d hd
    have hd := List.all_eq_true.1 (hall _ hmem) d hd
    simpa using hd

/-- A spelling of a sign begins with a character that no atom goes on with. -/
theorem Sign.isAtomChar_eq_false {s : Sign} {c : Char} {ds : List Char}
    (h : (c :: ds, s) ∈ Sign.table) : isAtomChar c = false := by
  have hheads : ∀ entry ∈ Sign.table, entry.1.head?.all (fun c => !isAtomChar c) = true := by
    decide
  simpa using hheads _ h

/-- No atom runs into a spelling of a sign. -/
theorem TokenKind.endsBefore_sign {s : Sign} {w : List Char} (h : (w, s) ∈ Sign.table)
    (rest : List Char) : TokenKind.atom.EndsBefore (w ++ rest) := by
  obtain ⟨c, ds, rfl, -⟩ := Sign.exists_cons h
  intro d hd
  obtain rfl : c = d := Option.some.inj hd
  exact Sign.isAtomChar_eq_false h

theorem Sign.mem_table {s : Sign} {w : String} (h : w ∈ s.spellings) : (w.toList, s) ∈ table :=
  List.mem_flatMap.2 ⟨s, s.mem_all, List.mem_map.2 ⟨w, h, rfl⟩⟩

/-- No sign is spelled at the head of a text if no spelling that has its first character goes on
    as the text does. -/
theorem Sign.atHead?_eq_none {c : Char} {cs : List Char} : Sign.atHead? (c :: cs) = none ↔
    ∀ s ds, (c :: ds, s) ∈ Sign.table → ¬ ds <+: cs := by
  constructor
  · rintro h s ds hmem ⟨rest, rfl⟩
    rw [← List.cons_append, Sign.atHead?_append hmem] at h
    cases h
  · intro h
    cases hfind : Sign.atHead? (c :: cs) with
    | none => rfl
    | some entry =>
      obtain ⟨w, s⟩ := entry
      obtain ⟨hmem, hprefix⟩ := Sign.of_atHead? hfind
      obtain ⟨d, ds, rfl, -⟩ := Sign.exists_cons hmem
      obtain ⟨rfl, hds⟩ := List.cons_prefix_cons.1 hprefix
      exact absurd hds (h s ds hmem)

/-- A stray character has no sign at its head, and begins nothing else. -/
theorem Token.atHead?_eq_none {c : Char} {cs : List Char} : Token.atHead? (c :: cs) = none ↔
    isAtomStart c = false ∧ c ≠ '(' ∧ c ≠ ')' ∧ Sign.atHead? (c :: cs) = none := by
  rw [Token.atHead?]
  cases isAtomStart c with
  | true => simp
  | false => by_cases hopening : c = '(' <;> by_cases hclosing : c = ')' <;> simp [*]

/-- What holds of the empty text, goes over from a text to one with a blank or a lexeme more at
    its head, and holds of every text that begins with a stray character, holds of all texts. -/
@[elab_as_elim]
theorem text_induction {motive : List Char → Prop} (nil : motive [])
    (blank : ∀ c cs, Text.isBlank c = true → motive cs → motive (c :: cs))
    (lexeme : ∀ kind w rest, Lexeme kind w → kind.EndsBefore rest → motive rest →
      motive (w ++ rest))
    (stray : ∀ c cs, Text.isBlank c = false → Token.atHead? (c :: cs) = none → motive (c :: cs))
    (cs : List Char) : motive cs := by
  cases cs with
  | nil => exact nil
  | cons c cs =>
    by_cases hc : Text.isBlank c = true
    · exact blank c cs hc (text_induction nil blank lexeme stray cs)
    · cases hhead : Token.atHead? (c :: cs) with
      | none => exact stray c cs (Bool.eq_false_iff.2 hc) hhead
      | some entry =>
        obtain ⟨kind, w⟩ := entry
        obtain ⟨hlexeme, rest, htext, hrest⟩ := Token.lexeme_of_atHead? hhead
        obtain ⟨d, ds, hw, -⟩ := hlexeme.exists_cons
        have hlt : rest.length < (c :: cs).length := by
          rw [htext, hw, List.length_append, List.length_cons]
          omega
        rw [htext]
        exact lexeme kind w rest hlexeme hrest (text_induction nil blank lexeme stray rest)
termination_by cs.length
decreasing_by
  · exact Nat.lt_succ_self _
  · exact hlt

/-! ## The signature along a text -/

namespace Token

/-- The shapes of the tokens of a text; nothing if the text has a stray character. -/
def shapes? (cs : List Char) : Option (List (TokenKind × String)) :=
  (scan 0 0 cs).toOption.map (List.map shape)

theorem shapes_cons (t : Token) (x : Except SyntaxError (List Token)) :
    (x.map (t :: ·)).toOption.map (List.map shape) =
      (x.toOption.map (List.map shape)).map (shape t :: ·) := by
  cases x <;> rfl

/-- The offset at which a text begins has no part in the shapes of its tokens. -/
theorem shapes_scan (skip pos : Nat) (cs : List Char) :
    (scan skip pos cs).toOption.map (List.map shape) =
      (scan skip 0 cs).toOption.map (List.map shape) := by
  induction cs generalizing skip pos with
  | nil => cases skip <;> rfl
  | cons c cs ih =>
    cases skip with
    | succ skip => exact (ih skip (pos + 1)).trans (ih skip (0 + 1)).symm
    | zero =>
      rw [scan, scan]
      split
      · exact (ih 0 (pos + 1)).trans (ih 0 (0 + 1)).symm
      · split
        · rw [shapes_cons, shapes_cons, ih _ (pos + 1), ih _ (0 + 1)]
          rfl
        · rfl

theorem shapes?_blank {c : Char} (hc : Text.isBlank c = true) (cs : List Char) :
    shapes? (c :: cs) = shapes? cs := by
  rw [shapes?, scan_blank hc]
  exact shapes_scan 0 (0 + 1) cs

theorem shapes?_lexeme {kind : TokenKind} {w rest : List Char} (h : Lexeme kind w)
    (hrest : kind.EndsBefore rest) :
    shapes? (w ++ rest) = (shapes? rest).map (shape ⟨kind, String.ofList w, 0⟩ :: ·) := by
  rw [shapes?, shapes?, scan_lexeme h hrest, shapes_cons, shapes_scan]

theorem shapes?_stray {c : Char} {cs : List Char} (hc : Text.isBlank c = false)
    (h : atHead? (c :: cs) = none) : shapes? (c :: cs) = none := by
  rw [shapes?, scan, if_neg (by simp [hc]), h]
  rfl

/-- A stray character stays stray whatever follows it, unless a spelling comes about. -/
theorem shapes?_stray_congr {c : Char} {cs cs' : List Char} (hc : Text.isBlank c = false)
    (h : atHead? (c :: cs) = none)
    (htails : ∀ s ds, (c :: ds, s) ∈ Sign.table → ds <+: cs' → ds <+: cs) :
    shapes? (c :: cs') = shapes? (c :: cs) := by
  obtain ⟨hstart, hopening, hclosing, hsign⟩ := atHead?_eq_none.1 h
  have hsign' : Sign.atHead? (c :: cs') = none :=
    Sign.atHead?_eq_none.2 fun s ds hmem hds =>
      Sign.atHead?_eq_none.1 hsign s ds hmem (htails s ds hmem hds)
  rw [shapes?_stray hc h,
    shapes?_stray hc (atHead?_eq_none.2 ⟨hstart, hopening, hclosing, hsign'⟩)]

/-- A text that begins with a character of an atom has no signature, or one that begins with an
    atom. -/
theorem shapes?_atomChar {c : Char} {cs : List Char} (hc : isAtomChar c = true)
    {shapes : List (TokenKind × String)} (h : shapes? (c :: cs) = some shapes) :
    ∃ name rest, shapes = (.atom, name) :: rest := by
  by_cases hstart : isAtomStart c = true
  · have hhead : atHead? (c :: cs) = some (.atom, c :: cs.takeWhile isAtomChar) := if_pos hstart
    obtain ⟨hlexeme, rest, htext, hrest⟩ := lexeme_of_atHead? hhead
    rw [htext, shapes?_lexeme hlexeme hrest] at h
    obtain ⟨others, -, rfl⟩ := Option.map_eq_some_iff.1 h
    exact ⟨_, others, rfl⟩
  · -- digits and underscores begin no token
    have hsign : Sign.atHead? (c :: cs) = none := by
      refine Sign.atHead?_eq_none.2 fun s ds hmem _ => ?_
      rw [Sign.isAtomChar_eq_false hmem] at hc
      cases hc
    have hnone : atHead? (c :: cs) = none := by
      refine atHead?_eq_none.2 ⟨Bool.eq_false_iff.2 hstart, ?_, ?_, hsign⟩
      · rintro rfl
        revert hc
        decide
      · rintro rfl
        revert hc
        decide
    rw [shapes?_stray (isBlank_of_isAtomChar hc) hnone] at h
    cases h

/-! ## Blanks -/

theorem shapes?_concat_blank {b : Char} (hb : Text.isBlank b = true) (cs : List Char) :
    shapes? (cs ++ [b]) = shapes? cs := by
  induction cs using text_induction with
  | nil => exact shapes?_blank hb []
  | blank c cs hc ih => rw [List.cons_append, shapes?_blank hc, shapes?_blank hc, ih]
  | lexeme kind w rest hlexeme hrest ih =>
    have hblank : TokenKind.atom.EndsBefore [b] := TokenKind.endsBefore_of_isBlank hb []
    rw [List.append_assoc, shapes?_lexeme hlexeme (hrest.append hblank),
      shapes?_lexeme hlexeme hrest, ih]
  | stray c cs hc hnone =>
    refine shapes?_stray_congr hc hnone fun s ds hmem hds => ?_
    -- a spelling that came about would have the blank in it
    rcases List.prefix_concat_iff.1 hds with rfl | hds
    · have hblank := (Lexeme.sign hmem).isBlank_eq_false b (by simp)
      rw [hb] at hblank
      cases hblank
    · exact hds

theorem shapes?_dropWhile (cs : List Char) :
    shapes? (cs.dropWhile Text.isBlank) = shapes? cs := by
  induction cs with
  | nil => rfl
  | cons c cs ih =>
    by_cases hc : Text.isBlank c = true
    · rw [List.dropWhile_cons_of_pos hc, ih, shapes?_blank hc]
    · rw [List.dropWhile_cons_of_neg hc]

theorem shapes?_reverse_dropWhile (cs : List Char) :
    shapes? (cs.dropWhile Text.isBlank).reverse = shapes? cs.reverse := by
  induction cs with
  | nil => rfl
  | cons c cs ih =>
    by_cases hc : Text.isBlank c = true
    · rw [List.dropWhile_cons_of_pos hc, ih, List.reverse_cons, shapes?_concat_blank hc]
    · rw [List.dropWhile_cons_of_neg hc]

/-- Blanks at both ends of a text do not matter. -/
theorem shapes?_trimWith (cs : List Char) :
    shapes? (Text.trimWith Text.isBlank cs) = shapes? cs := by
  rw [Text.trimWith, shapes?_reverse_dropWhile, List.reverse_reverse, shapes?_dropWhile]

/-- No two atoms stand side by side. -/
def Separated (shapes : List (TokenKind × String)) : Prop :=
  shapes.IsChain fun a b => a.1 = .atom → b.1 ≠ .atom

/-- Blanks inside a text do not matter where they keep no two atoms apart. -/
theorem shapes?_filter {cs : List Char} {shapes : List (TokenKind × String)}
    (hcs : shapes? cs = some shapes) (hshapes : Separated shapes) :
    shapes? (cs.filter fun c => !Text.isBlank c) = some shapes := by
  induction cs using text_induction generalizing shapes with
  | nil => exact hcs
  | blank c cs hc ih =>
    rw [shapes?_blank hc] at hcs
    rw [List.filter_cons_of_neg (by simp [hc])]
    exact ih hcs hshapes
  | lexeme kind w rest hlexeme hrest ih =>
    rw [shapes?_lexeme hlexeme hrest] at hcs
    obtain ⟨others, hothers, rfl⟩ := Option.map_eq_some_iff.1 hcs
    have htail := ih hothers hshapes.tail
    have hword : w.filter (fun c => !Text.isBlank c) = w :=
      List.filter_eq_self.2 fun c hc => by simp [hlexeme.isBlank_eq_false c hc]
    -- without its blanks the rest must not go on with the atom: it would begin with another one
    have hends : kind.EndsBefore (rest.filter fun c => !Text.isBlank c) := by
      refine TokenKind.endsBefore_of_atom fun hkind c hc => Bool.eq_false_iff.2 fun hatom => ?_
      subst hkind
      obtain ⟨cs, hfilter⟩ := List.head?_eq_some_iff.1 hc
      rw [hfilter] at htail
      obtain ⟨name, rest', rfl⟩ := shapes?_atomChar hatom htail
      exact (List.isChain_cons_cons.1 hshapes).1 rfl rfl
    rw [List.filter_append, hword, shapes?_lexeme hlexeme hends, htail]
    rfl
  | stray c cs hc hnone =>
    rw [shapes?_stray hc hnone] at hcs
    cases hcs

end Token

theorem signature?_eq (s : String) : signature? s = Token.shapes? s.toList := by
  rw [signature?, Tokens.ofText, Token.shapes?]
  cases Token.scan 0 0 s.toList <;> rfl

theorem signature?_strip (s : String) : signature? (Text.strip s) = signature? s := by
  rw [signature?_eq, signature?_eq, Text.strip, String.toList_ofList, Token.shapes?_trimWith]

end PropTutor
