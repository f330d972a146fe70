/-
  How a text lays out its tokens.

  A text is a row of lexemes and blanks, where no atom is followed by a character that it
  could go on with. The scan finds the tokens that are laid out and no others
  (`Token.scan_eq_ok`), so what the scan reads and what a printer writes meet in one relation.
-/
import PropTutor.Token.Scan

namespace PropTutor

/-- The characters are a token of this kind. -/
inductive Lexeme : TokenKind → List Char → Prop where
  | atom {c cs} : isAtomStart c = true → (∀ d ∈ cs, isAtomChar d = true) → Lexeme .atom (c :: cs)
  | opening : Lexeme .opening ['(']
  | closing : Lexeme .closing [')']
  | sign {s cs} : (cs, s) ∈ Sign.table → Lexeme (.sign s) cs

/-- A token of this kind does not go on in the text that follows it. -/
def TokenKind.EndsBefore : TokenKind → List Char → Prop
  | atom, rest => ∀ c ∈ rest.head?, isAtomChar c = false
  | _, _ => True

/-- The text, which begins at the offset, lays out the tokens. -/
inductive Lays : Nat → List Char → List Token → Prop where
  | nil {pos} : Lays pos [] []
  | blank {pos c cs ts} : Text.isBlank c = true → Lays (pos + 1) cs ts → Lays pos (c :: cs) ts
  | token {pos kind cs rest ts} : Lexeme kind cs → kind.EndsBefore rest →
      Lays (pos + cs.length) rest ts → Lays pos (cs ++ rest) (⟨kind, String.ofList cs, pos⟩ :: ts)

/-- Only an atom could go on in the text that follows it. -/
theorem TokenKind.endsBefore_of_atom {kind : TokenKind} {rest : List Char}
    (h : kind = .atom → TokenKind.atom.EndsBefore rest) : kind.EndsBefore rest := by
  cases kind with
  | atom => exact h rfl
  | sign s => trivial
  | opening => trivial
  | closing => trivial

/-- More text behind the rest does not matter, if no atom runs into it. -/
theorem TokenKind.EndsBefore.append {kind : TokenKind} {rest more : List Char}
    (h : kind.EndsBefore rest) (hmore : TokenKind.atom.EndsBefore more) :
    kind.EndsBefore (rest ++ more) := by
  refine TokenKind.endsBefore_of_atom fun hkind => ?_
  subst hkind
  cases rest with
  | nil => exact hmore
  | cons c rest => exact h

theorem TokenKind.EndsBefore.of_append {kind : TokenKind} {rest more : List Char}
    (h : kind.EndsBefore (rest ++ more)) : kind.EndsBefore rest := by
  refine TokenKind.endsBefore_of_atom fun hkind => ?_
  subst hkind
  cases rest with
  | nil => nofun
  | cons c rest => exact h

/-! ## Characters -/

theorem isAtomChar_of_isAtomStart {c : Char} (h : isAtomStart c = true) : isAtomChar c = true := by
  delta isAtomStart at h
  simp [isAtomChar, Char.isAlphanum, h]

theorem isBlank_of_isAtomChar {c : Char} (h : isAtomChar c = true) : Text.isBlank c = false := by
  delta isAtomChar Char.isAlphanum Char.isAlpha Char.isUpper Char.isLower Char.isDigit at h
  simp only [Bool.or_eq_true, Bool.and_eq_true, decide_eq_true_eq, ge_iff_le,
    UInt32.le_iff_toNat_le, beq_iff_eq] at h
  have hchar : ((65 ≤ c.toNat ∧ c.toNat ≤ 90 ∨ 97 ≤ c.toNat ∧ c.toNat ≤ 122) ∨
      48 ≤ c.toNat ∧ c.toNat ≤ 57) ∨ c = '_' := h
  rcases hchar with hchar | rfl
  · simp only [Text.isBlank, Bool.or_eq_false_iff, Bool.and_eq_false_iff, decide_eq_false_iff_not,
      beq_eq_false_iff_ne]
    omega
  · decide

/-- No atom runs into a blank. -/
theorem TokenKind.endsBefore_of_isBlank {c : Char} (hc : Text.isBlank c = true) (cs : List Char) :
    TokenKind.atom.EndsBefore (c :: cs) := by
  intro d hd
  obtain rfl : c = d := Option.some.inj hd
  refine Bool.eq_false_iff.2 fun hatom => ?_
  rw [isBlank_of_isAtomChar hatom] at hc
  cases hc

theorem isBlank_of_isAtomStart {c : Char} (h : isAtomStart c = true) : Text.isBlank c = false :=
  isBlank_of_isAtomChar (isAtomChar_of_isAtomStart h)

/-- A spelling of a sign begins with a character that begins nothing else. -/
theorem Sign.exists_cons {s : Sign} {cs : List Char} (h : (cs, s) ∈ Sign.table) :
    ∃ c ds, cs = c :: ds ∧ Text.isBlank c = false ∧ isAtomStart c = false ∧ c ≠ '(' ∧ c ≠ ')' := by
  have hheads : ∀ entry ∈ Sign.table, entry.1.head?.any (fun c =>
      !Text.isBlank c && !isAtomStart c && c != '(' && c != ')') = true := by
    decide
  have hhead := hheads _ h
  cases cs with
  | nil => cases hhead
  | cons c ds =>
    simp only [List.head?_cons, Option.any_some, Bool.and_eq_true, Bool.not_eq_true',
      bne_iff_ne] at hhead
    obtain ⟨⟨⟨hblank, hstart⟩, hopening⟩, hclosing⟩ := hhead
    exact ⟨c, ds, rfl, hblank, hstart, hopening, hclosing⟩

theorem Sign.of_atHead? {text cs : List Char} {s : Sign} (h : Sign.atHead? text = some (cs, s)) :
    (cs, s) ∈ Sign.table ∧ cs <+: text := by
  rw [Sign.atHead?] at h
  have hprefix := List.find?_some h
  exact ⟨List.mem_of_find?_eq_some h, List.isPrefixOf_iff_prefix.1 hprefix⟩

/-- A spelling is found at the head of every text that begins with it. -/
theorem Sign.atHead?_append {s : Sign} {cs : List Char} (h : (cs, s) ∈ Sign.table)
    (rest : List Char) : Sign.atHead? (cs ++ rest) = some (cs, s) := by
  have hprefix : cs.isPrefixOf (cs ++ rest) = true :=
    List.isPrefixOf_iff_prefix.2 (List.prefix_append cs rest)
  cases hfind : Sign.atHead? (cs ++ rest) with
  | none => exact absurd hprefix (List.find?_eq_none.1 hfind _ h)
  | some entry =>
    obtain ⟨ds, t⟩ := entry
    obtain ⟨hmem, hds⟩ := Sign.of_atHead? hfind
    -- two beginnings of one text are comparable, and no spelling begins with another one
    rcases List.prefix_or_prefix_of_prefix hds (List.prefix_append cs rest) with hle | hle
    · rw [Sign.spelling_unique _ hmem _ h (List.isPrefixOf_iff_prefix.2 hle)]
    · rw [Sign.spelling_unique _ h _ hmem (List.isPrefixOf_iff_prefix.2 hle)]

/-! ## The token at the head of a text -/

theorem Lexeme.exists_cons {kind : TokenKind} {cs : List Char} (h : Lexeme kind cs) :
    ∃ c ds, cs = c :: ds ∧ Text.isBlank c = false := by
  cases h with
  | atom hc _ => exact ⟨_, _, rfl, isBlank_of_isAtomStart hc⟩
  | opening => exact ⟨_, _, rfl, by decide⟩
  | closing => exact ⟨_, _, rfl, by decide⟩
  | sign hmem =>
    obtain ⟨c, ds, rfl, hblank, -⟩ := Sign.exists_cons hmem
    exact ⟨c, ds, rfl, hblank⟩

namespace Token

/-- A lexeme that ends before the rest is the token at the head of the text. -/
theorem atHead?_append {kind : TokenKind} {cs rest : List Char} (h : Lexeme kind cs)
    (hrest : kind.EndsBefore rest) : atHead? (cs ++ rest) = some (kind, cs) := by
  cases h with
  | @atom c ds hc hds =>
    have hstop : rest.takeWhile isAtomChar = [] := by
      cases rest with
      | nil => rfl
      | cons d _ => exact List.takeWhile_cons_of_neg (by simp [hrest d rfl])
    rw [List.cons_append, atHead?, if_pos hc, List.takeWhile_append_of_pos hds, hstop,
      List.append_nil]
  | opening => rfl
  | closing => rfl
  | sign hmem =>
    have hsign := Sign.atHead?_append hmem rest
    obtain ⟨c, ds, rfl, -, hstart, hopening, hclosing⟩ := Sign.exists_cons hmem
    rw [List.cons_append] at hsign ⊢
    rw [atHead?, hsign, if_neg (by simp [hstart]), if_neg (by simp [hopening]),
      if_neg (by simp [hclosing])]
    rfl

/-- The token at the head of a text is a lexeme that ends before the rest. -/
theorem lexeme_of_atHead? {text cs : List Char} {kind : TokenKind}
    (h : atHead? text = some (kind, cs)) :
    Lexeme kind cs ∧ ∃ rest, text = cs ++ rest ∧ kind.EndsBefore rest := by
  cases text with
  | nil => cases h
  | cons c ds =>
    rw [atHead?] at h
    split at h
    · next hc =>
      obtain ⟨rfl, rfl⟩ := Prod.mk.inj (Option.some.inj h)
      have hall : ∀ d ∈ ds.takeWhile isAtomChar, isAtomChar d = true :=
        List.all_eq_true.1 List.all_takeWhile
      refine ⟨.atom hc hall, ds.dropWhile isAtomChar, ?_, ?_⟩
      · rw [List.cons_append, List.takeWhile_append_dropWhile]
      · intro d hd
        have hnot := List.head?_dropWhile_not isAtomChar ds
        rw [Option.mem_def.1 hd] at hnot
        exact hnot
    · split at h
      · next hc =>
        obtain ⟨rfl, rfl⟩ := Prod.mk.inj (Option.some.inj h)
        rw [eq_of_beq hc]
        exact ⟨.opening, ds, rfl, trivial⟩
      · split at h
        · next hc =>
          obtain ⟨rfl, rfl⟩ := Prod.mk.inj (Option.some.inj h)
          rw [eq_of_beq hc]
          exact ⟨.closing, ds, rfl, trivial⟩
        · obtain ⟨⟨w, s⟩, hfind, heq⟩ := Option.map_eq_some_iff.1 h
          obtain ⟨rfl, rfl⟩ := Prod.mk.inj heq
          obtain ⟨hmem, rest, hrest⟩ := Sign.of_atHead? hfind
          exact ⟨.sign hmem, rest, hrest.symm, trivial⟩

/-! ## The scan -/

/-- The characters of a token that was read are passed over. -/
theorem scan_append (cs rest : List Char) (pos : Nat) :
    scan cs.length pos (cs ++ rest) = scan 0 (pos + cs.length) rest := by
  induction cs generalizing pos with
  | nil => rfl
  | cons c cs ih =>
    rw [List.cons_append, List.length_cons, scan, ih, Nat.add_right_comm, Nat.add_assoc]

theorem scan_blank {c : Char} (hc : Text.isBlank c = true) (pos : Nat) (cs : List Char) :
    scan 0 pos (c :: cs) = scan 0 (pos + 1) cs := by
  rw [scan, if_pos hc]

theorem scan_lexeme {kind : TokenKind} {cs rest : List Char} (h : Lexeme kind cs)
    (hrest : kind.EndsBefore rest) (pos : Nat) : scan 0 pos (cs ++ rest) =
      (scan 0 (pos + cs.length) rest).map (⟨kind, String.ofList cs, pos⟩ :: ·) := by
  obtain ⟨c, ds, rfl, hc⟩ := h.exists_cons
  have hhead := atHead?_append h hrest
  rw [List.cons_append] at hhead ⊢
  rw [scan, if_neg (by simp [hc]), hhead]
  show Except.map _ (scan ds.length (pos + 1) (ds ++ rest)) = _
  rw [scan_append, List.length_cons, Nat.add_right_comm, Nat.add_assoc]

theorem scan_of_lays {pos : Nat} {cs : List Char} {ts : List Token} (h : Lays pos cs ts) :
    scan 0 pos cs = .ok ts := by
  induction h with
  | nil => rfl
  | blank hc _ ih => rw [scan_blank hc, ih]
  | token hlexeme hrest _ ih =>
    rw [scan_lexeme hlexeme hrest, ih]
    rfl

/-- What is left of the text behind the token that was read is laid out. -/
theorem lays_of_scan {skip pos : Nat} {cs : List Char} {ts : List Token} (hskip : skip ≤ cs.length)
    (h : scan skip pos cs = .ok ts) : Lays (pos + skip) (cs.drop skip) ts := by
  induction cs generalizing skip pos ts with
  | nil =>
    obtain rfl : skip = 0 := Nat.le_zero.1 hskip
    obtain rfl : [] = ts := Except.ok.inj h
    exact .nil
  | cons c cs ih =>
    cases skip with
    | succ skip =>
      have hlays := ih (Nat.le_of_succ_le_succ hskip) h
      rwa [Nat.add_assoc, Nat.add_comm 1] at hlays
    | zero =>
      rw [scan] at h
      split at h
      · next hc => exact .blank hc (ih (Nat.zero_le _) h)
      · split at h
        · next kind value hhead =>
          obtain ⟨hlexeme, rest, htext, hrest⟩ := lexeme_of_atHead? hhead
          obtain ⟨d, ds, rfl, -⟩ := hlexeme.exists_cons
          obtain ⟨rfl, rfl⟩ : c = d ∧ cs = ds ++ rest := List.cons.inj htext
          have hlength : (c :: ds).length - 1 = ds.length := rfl
          rw [hlength] at h
          cases hscan : scan ds.length (pos + 1) (ds ++ rest) with
          | error e => rw [hscan] at h; cases h
          | ok us =>
            rw [hscan] at h
            obtain rfl := Except.ok.inj h
            have hlays := ih (by rw [List.length_append]; exact Nat.le_add_right ..) hscan
            rw [List.drop_left, Nat.add_assoc, Nat.add_comm 1] at hlays
            exact .token hlexeme hrest hlays
        · cases h

/-- The scan finds the tokens that the text lays out. -/
theorem scan_eq_ok {pos : Nat} {cs : List Char} {ts : List Token} :
    scan 0 pos cs = .ok ts ↔ Lays pos cs ts :=
  ⟨fun h => lays_of_scan (Nat.zero_le _) h, scan_of_lays⟩

end Token

/-- A text has the tokens that it lays out from its start. -/
theorem Tokens.ofText_eq_ok {s : String} {ts : Tokens} :
    Tokens.ofText s = .ok ts ↔ Lays 0 s.toList ts.items ∧ ts.stop = s.length := by
  rw [← Token.scan_eq_ok, Tokens.ofText]
  cases Token.scan 0 0 s.toList with
  | error e => exact iff_of_false nofun fun h => nomatch h.1
  | ok us =>
    obtain ⟨items, stop⟩ := ts
    constructor
    · intro h
      obtain ⟨rfl, rfl⟩ := Tokens.mk.inj (Except.ok.inj h)
      exact ⟨rfl, rfl⟩
    · rintro ⟨h, rfl⟩
      obtain rfl : us = items := Except.ok.inj h
      rfl

namespace Lays

theorem word {pos : Nat} {kind : TokenKind} {w : String} {rest : List Char} {ts : List Token}
    (hw : Lexeme kind w.toList) (hrest : kind.EndsBefore rest)
    (hts : Lays (pos + w.toList.length) rest ts) :
    Lays pos (w.toList ++ rest) (⟨kind, w, pos⟩ :: ts) := by
  have hlays := token hw hrest hts
  rwa [String.ofList_toList] at hlays

/-- A text that is laid out behind another one goes on with its tokens, if no atom runs into it. -/
theorem append {pos : Nat} {cs more : List Char} {ts us : List Token} (h : Lays pos cs ts)
    (hmore : TokenKind.atom.EndsBefore more) (hus : Lays (pos + cs.length) more us) :
    Lays pos (cs ++ more) (ts ++ us) := by
  induction h with
  | nil => exact hus
  | @blank pos c cs ts hc _ ih =>
    have hpos : pos + (c :: cs).length = pos + 1 + cs.length := by
      rw [List.length_cons]
      omega
    rw [hpos] at hus
    exact .blank hc (ih hus)
  | @token pos kind cs rest ts hlexeme hrest _ ih =>
    have hpos : pos + (cs ++ rest).length = pos + cs.length + rest.length := by
      rw [List.length_append, Nat.add_assoc]
    rw [hpos] at hus
    rw [List.append_assoc]
    exact .token hlexeme (hrest.append hmore) (ih hus)

/-- A text divides at each of its tokens: what stands in front of it lays out the tokens in front of
    it, and it is a lexeme that ends before the rest. -/
theorem exists_around {pos : Nat} {cs : List Char} {before after : List Token} {t : Token}
    (h : Lays pos cs (before ++ t :: after)) : ∃ front rest,
      cs = front ++ (t.value.toList ++ rest) ∧ pos + front.length = t.pos ∧ Lays pos front before ∧
      Lexeme t.kind t.value.toList ∧ t.kind.EndsBefore rest := by
  generalize hts : before ++ t :: after = ts at h
  induction h generalizing before with
  | nil => exact absurd hts (List.append_ne_nil_of_right_ne_nil _ (List.cons_ne_nil _ _))
  | @blank pos c cs ts hc _ ih =>
    obtain ⟨front, rest, rfl, hpos, hlays, ht⟩ := ih hts
    refine ⟨c :: front, rest, rfl, ?_, .blank hc hlays, ht⟩
    rw [List.length_cons]
    omega
  | @token pos kind cs rest ts hlexeme hends _ ih =>
    cases before with
    | nil =>
      obtain ⟨rfl, rfl⟩ := List.cons.inj hts
      refine ⟨[], rest, ?_, rfl, .nil, ?_, hends⟩
      · rw [String.toList_ofList, List.nil_append]
      · rwa [String.toList_ofList]
    | cons u before =>
      obtain ⟨rfl, htail⟩ := List.cons.inj hts
      obtain ⟨front, rest, rfl, hpos, hlays, ht⟩ := ih htail
      refine ⟨cs ++ front, rest, (List.append_assoc ..).symm, ?_, ?_, ht⟩
      · rw [List.length_append]
        omega
      · exact .token hlexeme hends.of_append hlays

/-- The text in front of a token lays out the tokens in front of it. -/
theorem exists_split {pos : Nat} {cs : List Char} {before after : List Token} {t : Token}
    (h : Lays pos cs (before ++ t :: after)) : ∃ front rest, cs = front ++ rest ∧ rest ≠ [] ∧
      pos + front.length = t.pos ∧ Lays pos front before := by
  obtain ⟨front, rest, rfl, hpos, hlays, hlexeme, -⟩ := h.exists_around
  obtain ⟨c, ds, hvalue, -⟩ := hlexeme.exists_cons
  refine ⟨front, t.value.toList ++ rest, rfl, ?_, hpos, hlays⟩
  rw [hvalue]
  exact List.cons_ne_nil _ _

/-- Every token was laid out as a lexeme. -/
theorem lexeme {pos : Nat} {cs : List Char} {ts : List Token} (h : Lays pos cs ts) {t : Token}
    (ht : t ∈ ts) : Lexeme t.kind t.value.toList := by
  obtain ⟨before, after, rfl⟩ := List.append_of_mem ht
  obtain ⟨_, _, -, -, -, hlexeme, -⟩ := h.exists_around
  exact hlexeme

/-- No token stands in front of the text. -/
theorem le_pos {pos : Nat} {cs : List Char} {ts : List Token} (h : Lays pos cs ts) {t : Token}
    (ht : t ∈ ts) : pos ≤ t.pos := by
  obtain ⟨before, after, rfl⟩ := List.append_of_mem ht
  obtain ⟨front, _, -, hpos, -⟩ := h.exists_around
  omega

/-- Every token takes a character of the text. -/
theorem length_le {pos : Nat} {cs : List Char} {ts : List Token} (h : Lays pos cs ts) :
    ts.length ≤ cs.length := by
  induction h with
  | nil => exact Nat.le_refl 0
  | blank _ _ ih => exact Nat.le_succ_of_le ih
  | @token _ _ cs rest ts hlexeme _ _ ih =>
    obtain ⟨c, ds, rfl, -⟩ := hlexeme.exists_cons
    simp only [List.length_append, List.length_cons]
    omega

end Lays

end PropTutor
