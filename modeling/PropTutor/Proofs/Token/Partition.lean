/-
  The tokens of a text partition it.

  Where a text has tokens, each of them is the slice of the text at its offset, they stand one
  behind the other with nothing but blanks outside of them, and no atom could be longer on either
  side (`Tokens.Partition`). Where it has none, the scan came to a character that begins no token,
  and the text in front of it has tokens (`SyntaxError.Stray`). Conversely lexemes and blanks in
  any order are a text with these tokens, if no atom directly follows another one
  (`Piece.ofText_text`); so the tokens of a text can be written side by side with spaces between.
-/
import PropTutor.Proofs.Token.Signature

namespace PropTutor

/-- The character at this offset belongs to the token. -/
def Token.Takes (t : Token) (i : Nat) : Prop := t.pos ≤ i ∧ i < t.pos + t.value.length

/-- The tokens divide the text: they are slices of it, one behind the other, only blanks stand
    outside of them, and beside an atom stands no character that it could take as well. -/
structure Tokens.Partition (ts : Tokens) (s : String) : Prop where
  slice : ∀ t ∈ ts.items, (s.toList.drop t.pos).take t.value.length = t.value.toList
  lexeme : ∀ t ∈ ts.items, Lexeme t.kind t.value.toList
  ordered : ts.items.Pairwise fun t u => t.pos < u.pos ∧ t.pos + t.value.length ≤ u.pos
  blank : ∀ i c, s.toList[i]? = some c → (∀ t ∈ ts.items, ¬ t.Takes i) → Text.isBlank c = true
  maximal : ∀ t ∈ ts.items, t.kind = .atom → ∀ i c, s.toList[i]? = some c →
    i = t.pos + t.value.length ∨ i + 1 = t.pos → isAtomChar c = false
  stop : ts.stop = s.length

/-- The error is a character with which no token begins, and the text in front of it has tokens. -/
def SyntaxError.Stray (e : SyntaxError) (s : String) : Prop :=
  ∃ front c rest, s.toList = front ++ c :: rest ∧
    (e.pos = front.length ∧ e.token = "UNKNOWN" ∧ e = .strayCharacter c front.length) ∧
    (∃ ts, Tokens.ofText (String.ofList front) = .ok ts) ∧
    Text.isBlank c = false ∧ isAtomStart c = false ∧ c ≠ '(' ∧ c ≠ ')' ∧
    ∀ w s, (w, s) ∈ Sign.table → ¬ w <+: c :: rest

/-- The kind and the characters of a token. -/
def Token.word (t : Token) : TokenKind × String := (t.kind, t.value)

/-- A piece of a text: a blank, or the characters of a token. -/
inductive Piece where
  | blank (c : Char)
  | lexeme (kind : TokenKind) (value : String)

namespace Piece

/-- The characters of a piece. -/
def chars : Piece → List Char
  | blank c => [c]
  | lexeme _ value => value.toList

/-- The piece is what it says. -/
def Valid : Piece → Prop
  | blank c => Text.isBlank c = true
  | lexeme kind value => Lexeme kind value.toList

/-- The piece is an atom. -/
def IsAtom : Piece → Prop
  | lexeme .atom _ => True
  | _ => False

/-- The text that consists of these pieces. -/
def text (pieces : List Piece) : String := String.ofList (pieces.flatMap chars)

/-- The tokens among the pieces, the first of which stands at this offset. -/
def tokens : (pos : Nat) → List Piece → List Token
  | _, [] => []
  | pos, blank _ :: rest => tokens (pos + 1) rest
  | pos, lexeme kind value :: rest => ⟨kind, value, pos⟩ :: tokens (pos + value.length) rest

/-- Blanks and lexemes in any order, but no two atoms side by side. -/
structure Interleaved (pieces : List Piece) : Prop where
  valid : ∀ p ∈ pieces, p.Valid
  apart : pieces.IsChain fun p q => p.IsAtom → ¬ q.IsAtom

end Piece

/-! ## Slices -/

/-- Only an atom has characters of atoms. -/
theorem TokenKind.eq_atom {kind : TokenKind} {w : List Char} (h : Lexeme kind w) {c : Char}
    (hc : c ∈ w) (hatom : isAtomChar c = true) : kind = .atom := by
  cases h with
  | atom _ _ => rfl
  | opening =>
    rw [List.mem_singleton.1 hc] at hatom
    exact absurd hatom (by decide)
  | closing =>
    rw [List.mem_singleton.1 hc] at hatom
    exact absurd hatom (by decide)
  | sign hmem =>
    have hsigns : ∀ entry ∈ Sign.table, entry.1.all (fun c => !isAtomChar c) = true := by decide
    have hnot := List.all_eq_true.1 (hsigns _ hmem) c hc
    rw [hatom] at hnot
    exact absurd hnot (by decide)

namespace Lays

variable {pos : Nat} {cs : List Char} {ts : List Token} {t : Token}

theorem length_value_pos (h : Lays pos cs ts) (ht : t ∈ ts) : 0 < t.value.length := by
  obtain ⟨c, ds, hvalue, -⟩ := (h.lexeme ht).exists_cons
  rw [← String.length_toList, hvalue, List.length_cons]
  omega

/-- Each token ends before the next one begins. -/
theorem ordered (h : Lays pos cs ts) :
    ts.Pairwise fun t u => t.pos < u.pos ∧ t.pos + t.value.length ≤ u.pos := by
  induction h with
  | nil => exact .nil
  | blank _ _ ih => exact ih
  | @token pos kind cs rest ts hlexeme _ hlays ih =>
    refine List.pairwise_cons.2 ⟨fun u hu => ?_, ih⟩
    have hpos := hlays.le_pos hu
    obtain ⟨c, ds, rfl, -⟩ := hlexeme.exists_cons
    show pos < u.pos ∧ pos + (String.ofList (c :: ds)).length ≤ u.pos
    rw [String.length_ofList]
    rw [List.length_cons] at hpos ⊢
    omega

/-- A character of the text is a blank, or it belongs to a token. -/
theorem blank_or_takes (h : Lays pos cs ts) {i : Nat} {c : Char} (hc : cs[i]? = some c) :
    Text.isBlank c = true ∨ ∃ t ∈ ts, t.Takes (pos + i) ∧ c ∈ t.value.toList := by
  induction h generalizing i with
  | nil => cases hc
  | @blank pos d cs ts hd _ ih =>
    cases i with
    | zero =>
      obtain rfl : d = c := Option.some.inj hc
      exact .inl hd
    | succ i =>
      have hrest := ih (i := i) hc
      rwa [Nat.add_assoc, Nat.add_comm 1] at hrest
  | @token pos kind cs rest ts _ _ _ ih =>
    by_cases hi : i < cs.length
    · rw [List.getElem?_append_left hi] at hc
      refine .inr ⟨_, List.mem_cons_self .., ⟨Nat.le_add_right _ _, ?_⟩, ?_⟩
      · show pos + i < pos + (String.ofList cs).length
        rw [String.length_ofList]
        omega
      · rw [String.toList_ofList]
        exact List.mem_of_getElem? hc
    · rw [List.getElem?_append_right (by omega)] at hc
      have hrest := ih hc
      rw [show pos + cs.length + (i - cs.length) = pos + i by omega] at hrest
      exact hrest.imp_right fun ⟨t, ht, htakes⟩ => ⟨t, List.mem_cons_of_mem _ ht, htakes⟩

/-- The character behind an atom does not continue it. -/
theorem isAtomChar_behind (h : Lays 0 cs ts) (ht : t ∈ ts) (hkind : t.kind = .atom) {c : Char}
    (hc : cs[t.pos + t.value.length]? = some c) : isAtomChar c = false := by
  obtain ⟨before, after, rfl⟩ := List.append_of_mem ht
  obtain ⟨front, rest, rfl, hpos, -, -, hends⟩ := h.exists_around
  rw [Nat.zero_add] at hpos
  rw [hkind] at hends
  rw [← hpos, ← String.length_toList, List.getElem?_append_right (Nat.le_add_right _ _),
    Nat.add_sub_cancel_left, List.getElem?_append_right (Nat.le_refl _), Nat.sub_self,
    ← List.head?_eq_getElem?] at hc
  exact hends c hc

/-- The character at the offset of a token is one of its characters. -/
theorem exists_getElem?_pos (h : Lays 0 cs ts) (ht : t ∈ ts) :
    ∃ c ∈ t.value.toList, cs[t.pos]? = some c := by
  obtain ⟨before, after, rfl⟩ := List.append_of_mem ht
  obtain ⟨front, rest, rfl, hpos, -, hlexeme, -⟩ := h.exists_around
  obtain ⟨c, ds, hvalue, -⟩ := hlexeme.exists_cons
  rw [Nat.zero_add] at hpos
  refine ⟨c, hvalue ▸ List.mem_cons_self .., ?_⟩
  rw [← hpos, List.getElem?_append_right (Nat.le_refl _), Nat.sub_self, hvalue]
  rfl

/-- Two tokens are the same, or one of them ends before the other one begins. -/
theorem eq_or_apart (h : Lays pos cs ts) {u : Token} (ht : t ∈ ts) (hu : u ∈ ts) :
    u = t ∨ u.pos + u.value.length ≤ t.pos ∨ t.pos + t.value.length ≤ u.pos := by
  have hordered := h.ordered
  obtain ⟨before, after, rfl⟩ := List.append_of_mem ht
  obtain ⟨-, hafter, hbefore⟩ := List.pairwise_append.1 hordered
  rcases List.mem_append.1 hu with hmem | hmem
  · exact .inr (.inl (hbefore u hmem t (List.mem_cons_self ..)).2)
  · rcases List.mem_cons.1 hmem with rfl | hmem
    · exact .inl rfl
    · exact .inr (.inr ((List.pairwise_cons.1 hafter).1 u hmem).2)

/-- The character in front of an atom is none of an atom. -/
theorem isAtomChar_before (h : Lays 0 cs ts) (ht : t ∈ ts) (hkind : t.kind = .atom) {i : Nat}
    {c : Char} (hi : i + 1 = t.pos) (hc : cs[i]? = some c) : isAtomChar c = false := by
  refine Bool.eq_false_iff.2 fun hatom => ?_
  rcases h.blank_or_takes hc with hblank | ⟨u, hu, ⟨hle, hlt⟩, hmem⟩
  · rw [isBlank_of_isAtomChar hatom] at hblank
    cases hblank
  · -- the character would belong to an atom, which would go on with the one behind it
    have hukind := TokenKind.eq_atom (h.lexeme hu) hmem hatom
    have hend : u.pos + u.value.length = t.pos := by
      rcases h.eq_or_apart ht hu with rfl | hbefore | hbehind
      · omega
      · omega
      · have hpositive := h.length_value_pos ht
        omega
    obtain ⟨d, hd, hget⟩ := h.exists_getElem?_pos ht
    have hlexeme := h.lexeme ht
    rw [hkind] at hlexeme
    have hbehind := h.isAtomChar_behind hu hukind (hend ▸ hget)
    rw [hlexeme.isAtomChar d hd] at hbehind
    cases hbehind

end Lays

theorem Tokens.partition_of_ofText {s : String} {ts : Tokens} (h : Tokens.ofText s = .ok ts) :
    ts.Partition s := by
  obtain ⟨hlays, hstop⟩ := Tokens.ofText_eq_ok.1 h
  refine ⟨fun t ht => ?_, fun t ht => hlays.lexeme ht, hlays.ordered, fun i c hc hfree => ?_,
    fun t ht hkind i c hc hi => ?_, hstop⟩
  · obtain ⟨before, after, hitems⟩ := List.append_of_mem ht
    rw [hitems] at hlays
    obtain ⟨front, rest, htext, hpos, -⟩ := hlays.exists_around
    rw [Nat.zero_add] at hpos
    rw [htext, List.drop_left' hpos, ← String.length_toList, List.take_left]
  · rcases hlays.blank_or_takes hc with hblank | ⟨t, ht, htakes, -⟩
    · exact hblank
    · rw [Nat.zero_add] at htakes
      exact absurd htakes (hfree t ht)
  · rcases hi with rfl | hi
    · exact hlays.isAtomChar_behind ht hkind hc
    · exact hlays.isAtomChar_before ht hkind hi hc

/-! ## Stray characters -/

/-- A scan that fails has read the text in front of the character where it fails. -/
theorem Token.exists_of_scan_error {pos : Nat} {cs : List Char} {e : SyntaxError}
    (h : scan 0 pos cs = .error e) : ∃ front c rest ts, cs = front ++ c :: rest ∧
      e = .strayCharacter c (pos + front.length) ∧ Lays pos front ts ∧ Text.isBlank c = false ∧
      atHead? (c :: rest) = none := by
  induction cs using text_induction generalizing pos with
  | nil => cases h
  | blank b cs hb ih =>
    rw [scan_blank hb] at h
    obtain ⟨front, c, rest, ts, rfl, rfl, hlays, hc⟩ := ih h
    refine ⟨b :: front, c, rest, ts, rfl, ?_, .blank hb hlays, hc⟩
    rw [List.length_cons, Nat.add_assoc, Nat.add_comm 1]
  | lexeme kind w rest hlexeme hends ih =>
    rw [scan_lexeme hlexeme hends] at h
    cases hscan : scan 0 (pos + w.length) rest with
    | ok us => rw [hscan] at h; cases h
    | error e' =>
      rw [hscan] at h
      obtain rfl : e' = e := Except.error.inj h
      obtain ⟨front, c, rest, ts, rfl, rfl, hlays, hc⟩ := ih hscan
      refine ⟨w ++ front, c, rest, _, (List.append_assoc ..).symm, ?_,
        .token hlexeme hends.of_append hlays, hc⟩
      rw [List.length_append, Nat.add_assoc]
  | stray c cs hc hnone =>
    rw [scan, if_neg (by simp [hc]), hnone] at h
    exact ⟨[], c, cs, [], rfl, (Except.error.inj h).symm, .nil, hc, hnone⟩

theorem Tokens.stray_of_ofText {s : String} {e : SyntaxError} (h : Tokens.ofText s = .error e) :
    e.Stray s := by
  rw [Tokens.ofText] at h
  cases hscan : Token.scan 0 0 s.toList with
  | ok us => rw [hscan] at h; cases h
  | error e' =>
    rw [hscan] at h
    obtain rfl : e' = e := Except.error.inj h
    obtain ⟨front, c, rest, ts, htext, rfl, hlays, hc, hnone⟩ := Token.exists_of_scan_error hscan
    obtain ⟨hstart, hopening, hclosing, hsign⟩ := Token.atHead?_eq_none.1 hnone
    rw [Nat.zero_add]
    refine ⟨front, c, rest, htext, ⟨rfl, rfl, rfl⟩, ⟨⟨ts, _⟩, Tokens.ofText_eq_ok.2 ⟨?_, rfl⟩⟩, hc,
      hstart, hopening, hclosing, fun w t hmem hprefix => ?_⟩
    · rwa [String.toList_ofList]
    · obtain ⟨behind, hbehind⟩ := hprefix
      rw [← hbehind, Sign.atHead?_append hmem] at hsign
      cases hsign

/-! ## Texts from pieces -/

namespace Piece

/-- Only an atom begins with a character of an atom. -/
theorem endsBefore_chars {p : Piece} (hp : p.Valid) (hatom : ¬ p.IsAtom) (rest : List Char) :
    TokenKind.atom.EndsBefore (p.chars ++ rest) := by
  cases p with
  | blank c => exact TokenKind.endsBefore_of_isBlank hp rest
  | lexeme kind value =>
    have hlexeme : Lexeme kind value.toList := hp
    obtain ⟨c, ds, hvalue, -⟩ := hlexeme.exists_cons
    intro d hd
    rw [chars, hvalue] at hd
    obtain rfl : c = d := Option.some.inj hd
    refine Bool.eq_false_iff.2 fun hc => hatom ?_
    have hmem : c ∈ value.toList := hvalue ▸ List.mem_cons_self ..
    rw [TokenKind.eq_atom hlexeme hmem hc]
    trivial

theorem lays_chars {pieces : List Piece} (h : Interleaved pieces) (pos : Nat) :
    Lays pos (pieces.flatMap chars) (tokens pos pieces) := by
  induction pieces generalizing pos with
  | nil => exact .nil
  | cons p rest ih =>
    obtain ⟨hp, hrest⟩ := List.forall_mem_cons.1 h.valid
    have hlays := ih ⟨hrest, h.apart.tail⟩
    cases p with
    | blank c => exact .blank hp (hlays (pos + 1))
    | lexeme kind value =>
      refine .word hp (TokenKind.endsBefore_of_atom fun hkind => ?_) ?_
      · subst hkind
        cases rest with
        | nil => nofun
        | cons q rest =>
          have hq : ¬ q.IsAtom := (List.isChain_cons_cons.1 h.apart).1 trivial
          exact endsBefore_chars (hrest q (List.mem_cons_self ..)) hq _
      · rw [String.length_toList]
        exact hlays _

/-- A text has the tokens among the pieces of which it consists. -/
theorem ofText_text {pieces : List Piece} (h : Interleaved pieces) :
    Tokens.ofText (text pieces) = .ok ⟨tokens 0 pieces, (text pieces).length⟩ := by
  refine Tokens.ofText_eq_ok.2 ⟨?_, rfl⟩
  rw [text, String.toList_ofList]
  exact lays_chars h 0

end Piece

/-- The values of tokens with single spaces between them lay out tokens of the same words. -/
theorem Lays.exists_spaced {ts : List Token} (h : ∀ t ∈ ts, Lexeme t.kind t.value.toList)
    (pos : Nat) : ∃ us, Lays pos (" ".intercalate (ts.map Token.value)).toList us ∧
      us.map Token.word = ts.map Token.word := by
  induction ts generalizing pos with
  | nil => exact ⟨[], .nil, rfl⟩
  | cons t ts ih =>
    obtain ⟨ht, hts⟩ := List.forall_mem_cons.1 h
    cases ts with
    | nil =>
      refine ⟨[⟨t.kind, t.value, pos⟩], ?_, rfl⟩
      have hends : t.kind.EndsBefore [] := TokenKind.endsBefore_of_atom fun _ => nofun
      have hlays : Lays pos (t.value.toList ++ []) [⟨t.kind, t.value, pos⟩] := .word ht hends .nil
      rwa [List.append_nil] at hlays
    | cons u ts =>
      have hblank : Text.isBlank ' ' = true := by decide
      obtain ⟨us, hlays, hwords⟩ := ih hts (pos + t.value.toList.length + 1)
      refine ⟨⟨t.kind, t.value, pos⟩ :: us, ?_, congrArg (t.word :: ·) hwords⟩
      have hends : t.kind.EndsBefore
          (' ' :: (" ".intercalate ((u :: ts).map Token.value)).toList) :=
        TokenKind.endsBefore_of_atom fun _ => TokenKind.endsBefore_of_isBlank hblank _
      have hword := Lays.word ht hends (.blank hblank hlays)
      rw [List.map_cons, List.map_cons, String.intercalate_cons_cons, String.toList_append,
        String.toList_append, List.append_assoc]
      exact hword

/-- The tokens of a text partition it. Where a text has none, the scan meets a character with which
    no token begins, behind a text that has tokens. Blanks and lexemes in any order, with no two
    atoms side by side, are a text with exactly these lexemes as its tokens. In particular the
    values of the tokens of any text, with single spaces between them, are read as tokens of the
    same kinds and values. -/
theorem tokens_partition_text :
    (∀ s ts, Tokens.ofText s = .ok ts → ts.Partition s) ∧
    (∀ s e, Tokens.ofText s = .error e → e.Stray s) ∧
    (∀ pieces, Piece.Interleaved pieces → Tokens.ofText (Piece.text pieces) =
      .ok ⟨Piece.tokens 0 pieces, (Piece.text pieces).length⟩) ∧
    ∀ s ts, Tokens.ofText s = .ok ts → ∃ us,
      Tokens.ofText (" ".intercalate (ts.items.map Token.value)) = .ok us ∧
      us.items.map Token.word = ts.items.map Token.word := by
  refine ⟨fun s ts => Tokens.partition_of_ofText, fun s e => Tokens.stray_of_ofText,
    fun pieces => Piece.ofText_text, fun s ts htext => ?_⟩
  obtain ⟨hlays, -⟩ := Tokens.ofText_eq_ok.1 htext
  obtain ⟨us, hus, hwords⟩ := Lays.exists_spaced (fun t ht => hlays.lexeme ht) 0
  exact ⟨⟨us, _⟩, Tokens.ofText_eq_ok.2 ⟨hus, rfl⟩, hwords⟩

/-- Signs that share characters stand side by side without blanks, a text ends in the middle of a
    spelling, and a blank that is no space keeps two atoms apart. -/
theorem tokens_partition_text_packed :
    (Tokens.ofText "P_1<->=>!" = .ok ⟨[⟨.atom, "P_1", 0⟩, ⟨.sign (.binary .iff), "<->", 3⟩,
        ⟨.sign (.binary .implies), "=>", 6⟩, ⟨.sign .neg, "!", 8⟩], 9⟩ ∧
      Tokens.Partition ⟨[⟨.atom, "P_1", 0⟩, ⟨.sign (.binary .iff), "<->", 3⟩,
        ⟨.sign (.binary .implies), "=>", 6⟩, ⟨.sign .neg, "!", 8⟩], 9⟩ "P_1<->=>!" ∧
      ∃ us, Tokens.ofText "P_1 <-> => !" = .ok us ∧ us.items.map Token.word = [(.atom, "P_1"),
        (.sign (.binary .iff), "<->"), (.sign (.binary .implies), "=>"), (.sign .neg, "!")]) ∧
    (Tokens.ofText "P ->< Q" = .error (.strayCharacter '<' 4) ∧
      (SyntaxError.strayCharacter '<' 4).Stray "P ->< Q") ∧
    Piece.Interleaved [.lexeme .atom "P", .blank '\u3000', .lexeme .atom "Q",
      .lexeme (.sign (.binary .implies)) "->", .lexeme (.sign (.binary .implies)) "=>"] ∧
    Tokens.ofText "P\u3000Q->=>" = .ok ⟨[⟨.atom, "P", 0⟩, ⟨.atom, "Q", 2⟩,
      ⟨.sign (.binary .implies), "->", 3⟩, ⟨.sign (.binary .implies), "=>", 5⟩], 7⟩ := by
  have hpacked : Tokens.ofText "P_1<->=>!" = .ok ⟨[⟨.atom, "P_1", 0⟩,
      ⟨.sign (.binary .iff), "<->", 3⟩, ⟨.sign (.binary .implies), "=>", 6⟩, ⟨.sign .neg, "!", 8⟩],
      9⟩ := by decide
  have hstray : Tokens.ofText "P ->< Q" = .error (.strayCharacter '<' 4) := by decide
  have hpieces : Piece.Interleaved [.lexeme .atom "P", .blank '\u3000', .lexeme .atom "Q",
      .lexeme (.sign (.binary .implies)) "->", .lexeme (.sign (.binary .implies)) "=>"] := by
    refine ⟨?_, ?_⟩
    · have hatom {c : Char} (hc : isAtomStart c = true) : Lexeme .atom [c] := .atom hc nofun
      have hblank : Text.isBlank '\u3000' = true := by decide
      simp only [List.forall_mem_cons, List.not_mem_nil, false_imp_iff, implies_true, and_true]
      exact ⟨hatom (by decide), hblank, hatom (by decide), .sign (by decide), .sign (by decide)⟩
    · simp [Piece.IsAtom]
  have hspaced : " ".intercalate ["P_1", "<->", "=>", "!"] = "P_1 <-> => !" := by decide
  have htext : Piece.text [.lexeme .atom "P", .blank '\u3000', .lexeme .atom "Q",
      .lexeme (.sign (.binary .implies)) "->", .lexeme (.sign (.binary .implies)) "=>"] =
      "P\u3000Q->=>" := by decide
  have hread := tokens_partition_text.2.2.1 _ hpieces
  obtain ⟨us, hus, hwords⟩ := tokens_partition_text.2.2.2 _ _ hpacked
  simp only [List.map_cons, List.map_nil] at hus
  rw [hspaced] at hus
  rw [htext] at hread
  exact ⟨⟨hpacked, tokens_partition_text.1 _ _ hpacked, us, hus, hwords⟩,
    ⟨hstray, tokens_partition_text.2.1 _ _ hstray⟩, hpieces, hread⟩

end PropTutor
