/-
  Which printed parentheses are needed.

  Tokens that spell a formula have one token for each of its nodes, and as many opening as closing
  parentheses (`Derives.spans`). So where the operands of a connective stand is fixed, whatever
  parentheses are around: if the tokens of the whole spell the formula, then each of its parts is
  spelled by its own tokens, as the phrase that its place takes (`Place.exists_derives_of_fill`).
  Without its parentheses a printed formula is such a phrase only if the place takes its connective
  (`Place.parseWithin_around_iff`), and then the whole is read under every limit of nesting under
  which its printed form is (`Place.parseWithin_around_of_text`). The printer puts parentheses
  around a formula that is taken in a single case: around an implication on the right of an
  implication.
-/
import PropTutor.Proofs.Formula.Place

namespace PropTutor

/-! ## Tokens and nodes -/

namespace Token

/-- What a token does: a parenthesis opens or closes. -/
def side (t : Token) : Int :=
  match t.kind with
  | .opening => 1
  | .closing => -1
  | _ => 0

/-- The token is an atom or a sign, and no parenthesis. -/
def isNode (t : Token) : Bool :=
  match t.kind with
  | .opening => false
  | .closing => false
  | _ => true

theorem Joins.side {t : Token} {c : Connective} (h : t.Joins c) : t.side = 0 := by
  have hkind : t.kind = .sign (.binary c) := h
  rw [Token.side, hkind]

theorem Joins.isNode {t : Token} {c : Connective} (h : t.Joins c) : t.isNode = true := by
  have hkind : t.kind = .sign (.binary c) := h
  rw [Token.isNode, hkind]

end Token

/-- The tokens have one for each node of the formula, and as many opening as closing parentheses. -/
structure Spans (us : List Token) (f : Formula) : Prop where
  nodes : us.countP Token.isNode = f.subformulas.length
  net_eq : net Token.side us = 0

namespace Spans

variable {us vs : List Token} {t u : Token} {f g : Formula}

theorem neg (h : Spans us f) (ht : t.kind = .sign .neg) : Spans (t :: us) (.neg f) := by
  have hnode : t.isNode = true := by rw [Token.isNode, ht]
  have hside : t.side = 0 := by rw [Token.side, ht]
  constructor
  · rw [List.countP_cons_of_pos hnode, h.nodes]
    rfl
  · rw [net, hside, h.net_eq, Int.zero_add]

theorem join (hf : Spans us f) {c : Connective} (ht : t.Joins c) (hg : Spans vs g) :
    Spans (us ++ t :: vs) (.bin c f g) := by
  constructor
  · rw [List.countP_append, List.countP_cons_of_pos ht.isNode, hf.nodes, hg.nodes,
      Formula.subformulas, List.length_cons, List.length_append, Nat.add_assoc]
  · rw [net_append, net, ht.side, hf.net_eq, hg.net_eq]
    rfl

theorem paren (h : Spans us f) (ht : t.kind = .opening) (hu : u.kind = .closing) :
    Spans (t :: (us ++ [u])) f := by
  have hopening : ¬ t.isNode = true := by
    rw [Token.isNode, ht]
    exact Bool.false_ne_true
  have hclosing : ¬ u.isNode = true := by
    rw [Token.isNode, hu]
    exact Bool.false_ne_true
  constructor
  · rw [List.countP_cons_of_neg hopening, List.countP_append, List.countP_cons_of_neg hclosing,
      h.nodes]
    rfl
  · have hout : t.side = 1 := by rw [Token.side, ht]
    have hback : u.side = -1 := by rw [Token.side, hu]
    rw [net, net_append, net, net, h.net_eq, hout, hback]
    rfl

end Spans

theorem Derives.spans {p : Phrase} {us : List Token} {f : Formula} (h : Derives p us f) :
    Spans us f := by
  induction h with
  | iff_imp _ ih => exact ih
  | iff_join _ ht _ ihf ihg => exact ihf.join ht ihg
  | imp_or _ ih => exact ih
  | imp_join _ ht _ ihf ihg => exact ihf.join ht ihg
  | or_and _ ih => exact ih
  | or_join _ ht _ ihf ihg => exact ihf.join ht ihg
  | and_un _ ih => exact ih
  | and_join _ ht _ ihf ihg => exact ihf.join ht ihg
  | un_neg ht _ ih => exact ih.neg ht
  | un_prim _ ih => exact ih
  | @prim_atom t ht =>
    constructor
    · rw [List.countP_cons_of_pos (by rw [Token.isNode, ht])]
      rfl
    · rw [net, Token.side, ht]
      rfl
  | prim_paren ht _ hu ih => exact ih.paren ht hu

/-! ## Where the operands stand -/

section

variable {front front' back back' us us' vs vs' : List Token}

/-- Nothing but opening parentheses. -/
def AllOpening (front : List Token) : Prop := ∀ x ∈ front, x.kind = .opening

/-- Nothing but closing parentheses. -/
def AllClosing (back : List Token) : Prop := ∀ x ∈ back, x.kind = .closing

theorem AllOpening.net_eq (h : AllOpening front) : net Token.side front = front.length := by
  induction front with
  | nil => rfl
  | cons t front ih =>
    obtain ⟨ht, hfront⟩ := List.forall_mem_cons.1 h
    have hside : t.side = 1 := by rw [Token.side, ht]
    rw [net, hside, ih hfront, List.length_cons]
    omega

theorem AllClosing.net_eq (h : AllClosing back) : net Token.side back = -back.length := by
  induction back with
  | nil => rfl
  | cons t back ih =>
    obtain ⟨ht, hback⟩ := List.forall_mem_cons.1 h
    have hside : t.side = -1 := by rw [Token.side, ht]
    rw [net, hside, ih hback, List.length_cons]
    omega

theorem AllOpening.countP_eq (h : AllOpening front) : front.countP Token.isNode = 0 :=
  List.countP_eq_zero.2 fun t ht => by
    rw [Token.isNode, h t ht]
    exact Bool.false_ne_true

/-- How many parentheses open in front of balanced tokens can be told. -/
theorem AllOpening.append_inj (h : AllOpening front) (h' : AllOpening front')
    (hus : net Token.side us = 0) (hus' : net Token.side us' = 0)
    (heq : front ++ us = front' ++ us') : front = front' ∧ us = us' := by
  have hnet := congrArg (net Token.side) heq
  rw [net_append, net_append, h.net_eq, h'.net_eq, hus, hus'] at hnet
  exact List.append_inj heq (by omega)

theorem AllClosing.append_inj (h : AllClosing back) (h' : AllClosing back')
    (hvs : net Token.side vs = 0) (hvs' : net Token.side vs' = 0)
    (heq : vs ++ back = vs' ++ back') : vs = vs' ∧ back = back' := by
  have hnet := congrArg (net Token.side) heq
  rw [net_append, net_append, h.net_eq, h'.net_eq, hvs, hvs'] at hnet
  exact List.append_inj' heq (by omega)

end

/-- A row divides in one way at an item of a kind of which so many stand in front of it. -/
theorem append_cons_inj_of_countP {α : Type} {p : α → Bool} {xs ys xs' ys' : List α} {x x' : α}
    (hx : p x = true) (hx' : p x' = true) (hcount : xs.countP p = xs'.countP p)
    (h : xs ++ x :: ys = xs' ++ x' :: ys') : xs = xs' ∧ ys = ys' := by
  rcases List.append_eq_append_iff.1 h with ⟨mid, rfl, hmid⟩ | ⟨mid, rfl, hmid⟩
  · cases mid with
    | nil => exact ⟨(List.append_nil _).symm, (List.cons.inj hmid).2⟩
    | cons y mid =>
      obtain ⟨rfl, -⟩ := List.cons.inj hmid
      rw [List.countP_append, List.countP_cons_of_pos hx] at hcount
      omega
  · cases mid with
    | nil => exact ⟨List.append_nil _, (List.cons.inj hmid).2.symm⟩
    | cons y mid =>
      obtain ⟨rfl, -⟩ := List.cons.inj hmid
      rw [List.countP_append, List.countP_cons_of_pos hx'] at hcount
      omega

/-! ## Parentheses around a spelling -/

/-- The tokens spell the formula, and no parentheses are around all of them. -/
def Formula.Bare : Formula → List Token → Prop
  | atom n, us => ∃ t : Token, us = [t] ∧ t.kind = .atom ∧ t.value = n
  | neg f, us => Negated (Derives .un · f) us
  | bin c f g, us => Joined c (Derives c.leftPhrase · f) (Derives c.rightPhrase · g) us

/-- Tokens of the form, in parentheses if the flag is set. -/
def Bracketed (brackets : Bool) (form : List Token → Prop) : List Token → Prop :=
  if brackets then Parenthesized form else form

variable {form form' : List Token → Prop} {us : List Token}

theorem LaysOut.bracket {s : String} (h : LaysOut s form) (brackets : Bool) :
    LaysOut (Formula.bracket brackets s) (Bracketed brackets form) := by
  cases brackets with
  | false => exact h
  | true => exact h.paren

theorem Bracketed.spans {brackets : Bool} {f : Formula} (h : Bracketed brackets form us)
    (hform : ∀ us, form us → Spans us f) : Spans us f := by
  cases brackets with
  | false => exact hform us h
  | true =>
    obtain ⟨t, vs, u, rfl, ht, hvs, hu⟩ := h
    exact (hform vs hvs).paren ht hu

theorem Negated.spans {f : Formula} (h : Negated form us) (hform : ∀ vs, form vs → Spans vs f) :
    Spans us (.neg f) := by
  obtain ⟨t, vs, rfl, ht, hvs⟩ := h
  exact (hform vs hvs).neg ht

theorem Joined.spans {c : Connective} {f g : Formula} (h : Joined c form form' us)
    (hf : ∀ vs, form vs → Spans vs f) (hg : ∀ ws, form' ws → Spans ws g) :
    Spans us (.bin c f g) := by
  obtain ⟨vs, t, ws, rfl, hvs, ht, hws⟩ := h
  exact (hf vs hvs).join ht (hg ws hws)

/-- What is bracketed has parentheses around it, and none without the flag. -/
theorem Bracketed.exists_around {brackets : Bool} (h : Bracketed brackets form us) :
    ∃ front core back, us = front ++ (core ++ back) ∧ AllOpening front ∧ AllClosing back ∧
      form core ∧ (brackets = false → front = []) := by
  cases brackets with
  | false => exact ⟨[], us, [], (List.append_nil us).symm, nofun, nofun, h, fun _ => rfl⟩
  | true =>
    obtain ⟨t, vs, u, rfl, ht, hvs, hu⟩ := h
    exact ⟨[t], vs, [u], rfl, List.forall_mem_singleton.2 ht, List.forall_mem_singleton.2 hu, hvs,
      nofun⟩

/-- The tokens are a bare spelling of the formula with parentheses around it, or without any, and
    then a phrase of this level is one that the root of the formula makes. -/
def Formula.BareWithin (p : Phrase) (f : Formula) (us : List Token) : Prop :=
  ∃ front core back, us = front ++ (core ++ back) ∧ AllOpening front ∧ AllClosing back ∧
    f.Bare core ∧ (front = [] → p.level ≤ f.phrase.level)

namespace Formula

variable {p q : Phrase} {f : Formula}

theorem Bare.within (h : f.Bare us) (hlevel : p.level ≤ f.phrase.level) : f.BareWithin p us :=
  ⟨[], us, [], (List.append_nil us).symm, nofun, nofun, h, fun _ => hlevel⟩

theorem BareWithin.loosen (hpq : p.level ≤ q.level) (h : f.BareWithin q us) :
    f.BareWithin p us := by
  obtain ⟨front, core, back, heq, hopen, hclose, hbare, hlevel⟩ := h
  exact ⟨front, core, back, heq, hopen, hclose, hbare, fun h => Nat.le_trans hpq (hlevel h)⟩

theorem BareWithin.paren {t u : Token} (h : f.BareWithin p us) (ht : t.kind = .opening)
    (hu : u.kind = .closing) : f.BareWithin q (t :: us ++ [u]) := by
  obtain ⟨front, core, back, rfl, hopen, hclose, hbare, -⟩ := h
  refine ⟨t :: front, core, back ++ [u], ?_, List.forall_mem_cons.2 ⟨ht, hopen⟩,
    List.forall_mem_append.2 ⟨hclose, List.forall_mem_singleton.2 hu⟩, hbare, nofun⟩
  simp only [List.cons_append, List.append_assoc]

end Formula

namespace Derives

variable {p : Phrase} {f : Formula}

/-- Tokens that spell a formula are a bare spelling of it, perhaps in parentheses. -/
theorem bareWithin (h : Derives p us f) : f.BareWithin p us := by
  have joined {c : Connective} {us vs : List Token} {f g : Formula} {t : Token}
      (hf : Derives c.leftPhrase us f) (ht : t.Joins c) (hg : Derives c.rightPhrase vs g) :
      (Formula.bin c f g).BareWithin c.phrase (us ++ t :: vs) :=
    Formula.Bare.within ⟨us, t, vs, rfl, hf, ht, hg⟩ (Nat.le_refl _)
  induction h with
  | iff_imp _ ih => exact ih.loosen (by decide)
  | iff_join hf ht hg => exact joined (c := .iff) hf ht hg
  | imp_or _ ih => exact ih.loosen (by decide)
  | imp_join hf ht hg => exact joined (c := .implies) hf ht hg
  | or_and _ ih => exact ih.loosen (by decide)
  | or_join hf ht hg => exact joined (c := .or) hf ht hg
  | and_un _ ih => exact ih.loosen (by decide)
  | and_join hf ht hg => exact joined (c := .and) hf ht hg
  | @un_neg ts f t ht hf =>
    exact Formula.Bare.within (f := .neg f) ⟨t, ts, rfl, ht, hf⟩ (Nat.le_refl _)
  | un_prim _ ih => exact ih.loosen (by decide)
  | @prim_atom t ht =>
    exact Formula.Bare.within (f := .atom t.value) ⟨t, rfl, ht, rfl⟩ (Nat.le_refl _)
  | prim_paren ht _ hu ih => exact ih.paren ht hu

variable {c : Connective} {l r : Formula} {brackets : Bool}

/-- Where tokens spell a negation, the operand is spelled by the tokens that have its nodes. -/
theorem of_negated (hus : Bracketed brackets (Negated form) us)
    (hform : ∀ vs, form vs → Spans vs f) (h : Derives p us (.neg f)) :
    ∃ vs, form vs ∧ Derives .un vs f := by
  obtain ⟨front, core, back, rfl, hopen, hclose, ⟨t, vs, rfl, ht, hvs⟩, -⟩ := hus.exists_around
  obtain ⟨front', core', back', heq, hopen', hclose', ⟨t', vs', rfl, ht', hf⟩, -⟩ := h.bareWithin
  have hnode : ∀ {x : Token}, x.kind = .sign .neg → x.isNode = true := fun hx => by
    rw [Token.isNode, hx]
  have hcount : front.countP Token.isNode = front'.countP Token.isNode :=
    hopen.countP_eq.trans hopen'.countP_eq.symm
  obtain ⟨-, hbehind⟩ := append_cons_inj_of_countP (hnode ht) (hnode ht') hcount heq
  obtain ⟨rfl, -⟩ := hclose.append_inj hclose' (hform vs hvs).net_eq hf.spans.net_eq hbehind
  exact ⟨vs, hvs, hf⟩

/-- Where tokens spell a join, each operand is spelled by the tokens that have its nodes, as the
    phrase that stands on its side. Without parentheses around them, the tokens are a phrase that
    the connective makes. -/
theorem of_joined (hus : Bracketed brackets (Joined c form form') us)
    (hl : ∀ vs, form vs → Spans vs l) (hr : ∀ ws, form' ws → Spans ws r)
    (h : Derives p us (.bin c l r)) :
    (∃ vs, form vs ∧ Derives c.leftPhrase vs l) ∧ (∃ ws, form' ws ∧ Derives c.rightPhrase ws r) ∧
      (brackets = false → p.level ≤ c.phrase.level) := by
  obtain ⟨front, core, back, rfl, hopen, hclose, ⟨vs, t, ws, rfl, hvs, ht, hws⟩, hnone⟩ :=
    hus.exists_around
  obtain ⟨front', core', back', heq, hopen', hclose', ⟨vs', t', ws', rfl, hvs', ht', hws'⟩,
    hlevel⟩ := h.bareWithin
  have hrow {front vs ws back : List Token} {t : Token} :
      front ++ ((vs ++ t :: ws) ++ back) = (front ++ vs) ++ t :: (ws ++ back) := by
    simp only [List.append_assoc, List.cons_append]
  rw [hrow, hrow] at heq
  have hcount : (front ++ vs).countP Token.isNode = (front' ++ vs').countP Token.isNode := by
    rw [List.countP_append, List.countP_append, hopen.countP_eq, hopen'.countP_eq,
      (hl vs hvs).nodes, hvs'.spans.nodes]
  obtain ⟨hbefore, hbehind⟩ := append_cons_inj_of_countP ht.isNode ht'.isNode hcount heq
  obtain ⟨rfl, rfl⟩ := hopen.append_inj hopen' (hl vs hvs).net_eq hvs'.spans.net_eq hbefore
  obtain ⟨rfl, -⟩ := hclose.append_inj hclose' (hr ws hws).net_eq hws'.spans.net_eq hbehind
  exact ⟨⟨vs, hvs, hvs'⟩, ⟨ws, hws, hws'⟩, fun h => hlevel (hnone h)⟩

end Derives

/-! ## The tokens around a place -/

namespace Place

open Formula (bracket leftNeedsBrackets rightNeedsBrackets)

/-- The tokens that are printed around a place, with tokens of the form for what fills it. -/
def tokens : Place → Formula → (List Token → Prop) → List Token → Prop
  | root, _, form => form
  | under p, g, form => p.tokens (.neg g) (Bracketed (p.brackets (.neg g)) (Negated form))
  | left p c r, g, form => p.tokens (.bin c g r)
      (Bracketed (p.brackets (.bin c g r)) (Joined c form (Derives c.rightPhrase · r)))
  | right p c l, g, form => p.tokens (.bin c l g)
      (Bracketed (p.brackets (.bin c l g)) (Joined c (Derives c.leftPhrase · l) form))

/-- The phrase as which the place takes a formula. -/
def phrase : Place → Phrase
  | root => .iff
  | under _ => .un
  | left _ c _ => c.leftPhrase
  | right _ c _ => c.rightPhrase

/-- A formula without parentheses around it is a phrase that its place takes. -/
theorem phrase_level_le {p : Place} {g : Formula} (h : p.brackets g = false) :
    p.phrase.level ≤ g.phrase.level := by
  cases p with
  | root =>
    exact g.phrase.iff_level_le
  | under p => exact Formula.un_level_le h
  | left p c r => exact Formula.leftPhrase_level_le h
  | right p c l => exact Formula.rightPhrase_level_le h

/-- Only joins are put in parentheses. -/
theorem exists_bin_of_brackets {p : Place} {g : Formula} (h : p.brackets g = true) :
    ∃ c l r, g = .bin c l r := by
  cases g with
  | bin c l r => exact ⟨c, l, r, rfl⟩
  | _ => cases p <;> cases h

theorem wellNamed_of_fill {p : Place} {g : Formula} (h : (p.fill g).WellNamed) : g.WellNamed := by
  induction p generalizing g with
  | root => exact h
  | under p ih => exact ih (g := .neg g) h
  | left p c r ih => exact (Formula.wellNamed_bin.1 (ih h)).1
  | right p c l ih => exact (Formula.wellNamed_bin.1 (ih h)).2

theorem printsAt_left {c : Connective} {l : Formula} (h : l.WellNamed) :
    c.leftPhrase.PrintsAt (bracket (leftNeedsBrackets c l) l.text) l
      (l.levels + (leftNeedsBrackets c l).toNat) :=
  (Formula.printsAt_text h).bracket Formula.leftPhrase_level_le

theorem printsAt_right {c : Connective} {r : Formula} (h : r.WellNamed) :
    c.rightPhrase.PrintsAt (bracket (rightNeedsBrackets c r) r.text) r
      (r.levels + (rightNeedsBrackets c r).toNat) :=
  (Formula.printsAt_text h).bracket Formula.rightPhrase_level_le

variable {p : Place} {g : Formula} {s : String} {form : List Token → Prop} {k k' : Nat}

theorem laysOut_around (h : (p.fill g).WellNamed) (hs : LaysOut s form) :
    LaysOut (p.around g s) (p.tokens g form) := by
  induction p generalizing g s form with
  | root => exact hs
  | under p ih => exact ih (g := .neg g) h (hs.neg.bracket _)
  | left p c r ih =>
    have hr := (Formula.wellNamed_bin.1 (wellNamed_of_fill (p := p) h)).2
    exact ih (g := .bin c g r) h ((hs.join (printsAt_right hr).prints).bracket _)
  | right p c l ih =>
    have hl := (Formula.wellNamed_bin.1 (wellNamed_of_fill (p := p) h)).1
    exact ih (g := .bin c l g) h ((LaysOut.join (printsAt_left hl).prints hs).bracket _)

/-- Where tokens around a place spell the formula with the place filled, what fills it is spelled
    by its own tokens, as the phrase that the place takes. -/
theorem exists_derives_of_fill {ts : List Token} (hts : p.tokens g form ts)
    (hform : ∀ us, form us → Spans us g) (h : Derives .iff ts (p.fill g)) :
    ∃ us, form us ∧ Derives p.phrase us g := by
  induction p generalizing g form with
  | root => exact ⟨ts, hts, h⟩
  | under p ih =>
    obtain ⟨us, hus, hderives⟩ := ih hts (fun us hus => hus.spans fun _ h => h.spans hform) h
    exact hderives.of_negated hus hform
  | left p c r ih =>
    have hright (ws : List Token) (hws : Derives c.rightPhrase ws r) : Spans ws r := hws.spans
    obtain ⟨us, hus, hderives⟩ :=
      ih hts (fun us hus => hus.spans fun _ h => h.spans hform hright) h
    exact (hderives.of_joined hus hform hright).1
  | right p c l ih =>
    have hleft (vs : List Token) (hvs : Derives c.leftPhrase vs l) : Spans vs l := hvs.spans
    obtain ⟨us, hus, hderives⟩ :=
      ih hts (fun us hus => hus.spans fun _ h => h.spans hleft hform) h
    exact (hderives.of_joined hus hleft hform).2.1

/-- The levels of nesting around a place, with those of what fills it. -/
def levels : Place → Formula → Nat → Nat
  | root, _, k => k
  | under p, g, k => p.levels (.neg g) (k + 1 + (p.brackets (.neg g)).toNat)
  | left p c r, g, k => p.levels (.bin c g r)
      (max k (r.levels + (rightNeedsBrackets c r).toNat + c.groupsRight.toNat) +
        (p.brackets (.bin c g r)).toNat)
  | right p c l, g, k => p.levels (.bin c l g)
      (max (l.levels + (leftNeedsBrackets c l).toNat) (k + c.groupsRight.toNat) +
        (p.brackets (.bin c l g)).toNat)

theorem levels_mono (h : k ≤ k') : p.levels g k ≤ p.levels g k' := by
  induction p generalizing g k k' with
  | root => exact h
  | under p ih => exact ih (by omega)
  | left p c r ih => exact ih (by omega)
  | right p c l ih => exact ih (by omega)

/-- Around a text that spells `g` as the phrase that the place takes, the formula with the place
    filled is printed. -/
theorem printsAt_around (h : (p.fill g).WellNamed) (hs : p.phrase.PrintsAt s g k) :
    Phrase.iff.PrintsAt (p.around g s) (p.fill g) (p.levels g k) := by
  induction p generalizing g s k with
  | root => exact hs
  | under p ih => exact ih (g := .neg g) h (hs.neg.bracket phrase_level_le)
  | left p c r ih =>
    have hr := (Formula.wellNamed_bin.1 (wellNamed_of_fill (p := p) h)).2
    exact ih (g := .bin c g r) h ((hs.join (printsAt_right hr)).bracket phrase_level_le)
  | right p c l ih =>
    have hl := (Formula.wellNamed_bin.1 (wellNamed_of_fill (p := p) h)).1
    have hbin := Phrase.PrintsAt.join (printsAt_left hl) hs
    exact ih (g := .bin c l g) h (hbin.bracket phrase_level_le)

/-- Without its parentheses, what fills a place that takes it nests less deeply. So the whole is
    read wherever its printed form is. -/
theorem parseWithin_around_of_text (h : (p.fill g).WellNamed)
    (hlevel : p.phrase.level ≤ g.phrase.level) {limit : Option Nat}
    (hread : Formula.parseWithin limit (p.fill g).text = .ok (p.fill g)) :
    Formula.parseWithin limit (p.around g g.text) = .ok (p.fill g) := by
  have hg := Formula.printsAt_text (wellNamed_of_fill h)
  have hbare := Formula.parseWithin_of_printsAt (printsAt_around h (hg.loosen hlevel))
  cases limit with
  | none => exact hbare.1
  | some n =>
    have hwith := Formula.parseWithin_of_printsAt (printsAt_around h (hg.bracket phrase_level_le))
    rw [text_fill, hwith.2] at hread
    split at hread
    · next hn =>
      have hle : p.levels g g.levels ≤ n :=
        Nat.le_trans (levels_mono (Nat.le_add_right _ _)) hn
      rw [hbare.2, if_pos hle]
    · cases hread

/-- A join that is printed without parentheses is read back if the place takes its connective, and
    only then. -/
theorem parseWithin_around_iff {c : Connective} {l r : Formula}
    (h : (p.fill (.bin c l r)).WellNamed) :
    Formula.parseWithin none (p.around (.bin c l r) (Formula.bin c l r).text) =
      .ok (p.fill (.bin c l r)) ↔ p.phrase.level ≤ c.phrase.level := by
  have hbin := wellNamed_of_fill h
  constructor
  · obtain ⟨hl, hr⟩ := Formula.wellNamed_bin.1 hbin
    have hbare : LaysOut (Formula.bin c l r).text (Formula.bin c l r).Bare :=
      LaysOut.join (printsAt_left hl).prints (printsAt_right hr).prints
    have hleft (vs : List Token) (hvs : Derives c.leftPhrase vs l) : Spans vs l := hvs.spans
    have hright (ws : List Token) (hws : Derives c.rightPhrase ws r) : Spans ws r := hws.spans
    obtain ⟨ts, hts, hread⟩ := Formula.parseWithin_of_laysOut (laysOut_around h hbare)
    rw [hread]
    intro hderives
    obtain ⟨us, hus, hfiller⟩ :=
      exists_derives_of_fill hts (fun us hus => Joined.spans hus hleft hright) hderives
    have hus : Bracketed false (Formula.bin c l r).Bare us := hus
    exact (hfiller.of_joined hus hleft hright).2.2 rfl
  · intro hlevel
    exact parseWithin_around_of_text h hlevel (Formula.parseWithin_text h)

/-! ## The exception -/

/-- The formula is an implication, and it stands on the right of an implication. -/
def ChainsImplications (p : Place) (g : Formula) : Prop :=
  (∃ q l, p = right q .implies l) ∧ ∃ a b, g = .imp a b

/-- A place that has a join put in parentheses takes its connective in one case only. -/
theorem level_le_iff_chains {c : Connective} {l r : Formula}
    (h : p.brackets (.bin c l r) = true) :
    p.phrase.level ≤ c.phrase.level ↔ p.ChainsImplications (.bin c l r) := by
  cases p with
  | root => cases h
  | under p =>
    refine iff_of_false ?_ fun ⟨⟨_, _, hp⟩, _⟩ => nomatch hp
    show ¬ Phrase.un.level ≤ c.phrase.level
    cases c <;> decide
  | left p d r' =>
    refine iff_of_false ?_ fun ⟨⟨_, _, hp⟩, _⟩ => nomatch hp
    revert h
    show leftNeedsBrackets d (.bin c l r) = true → ¬ d.leftPhrase.level ≤ c.phrase.level
    rw [leftNeedsBrackets]
    cases c <;> cases d <;> decide
  | right p d l' =>
    have hchain : (right p d l').ChainsImplications (.bin c l r) ↔ d = .implies ∧ c = .implies := by
      constructor
      · rintro ⟨⟨_, _, hp⟩, _, _, hg⟩
        cases hp
        cases hg
        exact ⟨rfl, rfl⟩
      · rintro ⟨rfl, rfl⟩
        exact ⟨⟨p, l', rfl⟩, l, r, rfl⟩
    rw [hchain]
    revert h
    show rightNeedsBrackets d (.bin c l r) = true → (d.rightPhrase.level ≤ c.phrase.level ↔ _)
    rw [rightNeedsBrackets]
    cases c <;> cases d <;> decide

end Place

/-- A matching pair of parentheses in the printed form of a formula is the one around a subformula
    at its place. If that is an implication on the right of an implication, the text without the
    pair is still read as the formula, without a limit of nesting and under every limit under which
    the printed form is read. In every other case it is not read as the formula under any limit. -/
theorem printed_parentheses_needed_unless_chained {f : Formula} (hf : f.WellNamed)
    {before inner after : String} (hpair : Text.MatchingPair f.text before inner after) :
    (∃ (p : Place) (g : Formula), f = p.fill g ∧ p.Encloses g before inner after) ∧
    ∀ (p : Place) (g : Formula), f = p.fill g → p.Encloses g before inner after →
      (p.ChainsImplications g →
        Formula.parseWithin none (before ++ inner ++ after) = .ok f ∧
        ∀ limit, Formula.parseWithin limit f.text = .ok f →
          Formula.parseWithin limit (before ++ inner ++ after) = .ok f) ∧
      (¬ p.ChainsImplications g →
        ∀ limit, Formula.parseWithin limit (before ++ inner ++ after) ≠ .ok f) := by
  refine ⟨Place.exists_of_matchingPair hf hpair, ?_⟩
  rintro p g rfl ⟨hbrackets, rfl, haround⟩
  obtain ⟨c, l, r, rfl⟩ := Place.exists_bin_of_brackets hbrackets
  have hlevel := Place.level_le_iff_chains hbrackets
  rw [← haround]
  refine ⟨fun hchain => ⟨?_, fun limit hlimit => ?_⟩, fun hchain limit hlimit => hchain ?_⟩
  · exact (Place.parseWithin_around_iff hf).2 (hlevel.2 hchain)
  · exact Place.parseWithin_around_of_text hf (hlevel.2 hchain) hlimit
  · have hnone := Formula.parseWithin_none_of_ok hlimit
    exact hlevel.1 ((Place.parseWithin_around_iff hf).1 hnone)

/-- The implication `Q → P`. -/
def innerImplication : Formula := .imp (.atom "Q") (.atom "P")

/-- An implication on the right of an implication. -/
def outerImplication : Formula := .imp (.atom "P") innerImplication

/-- Under a negation, the outer parentheses are needed and the inner ones are not. -/
theorem printed_parentheses_needed_unless_chained_negation :
    (Formula.neg outerImplication).WellNamed ∧
    Text.MatchingPair (Formula.neg outerImplication).text "¬" "P → (Q → P)" "" ∧
    Text.MatchingPair (Formula.neg outerImplication).text "¬(P → " "Q → P" ")" ∧
    (∀ limit, Formula.parseWithin limit ("¬" ++ "P → (Q → P)" ++ "") ≠
      .ok (.neg outerImplication)) ∧
    Formula.parseWithin none ("¬(P → " ++ "Q → P" ++ ")") = .ok (.neg outerImplication) := by
  have hnamed : (Formula.neg outerImplication).WellNamed := by decide
  have houter : Text.MatchingPair (Formula.neg outerImplication).text "¬" "P → (Q → P)" "" :=
    ⟨by decide, Formula.balanced_text (f := outerImplication) (by decide)⟩
  have hinner : Text.MatchingPair (Formula.neg outerImplication).text "¬(P → " "Q → P" ")" :=
    ⟨by decide, Formula.balanced_text (f := innerImplication) (by decide)⟩
  have hunder : (Place.under .root).Encloses outerImplication "¬" "P → (Q → P)" "" :=
    ⟨rfl, by decide, fun s => String.append_empty.symm⟩
  have hright : (Place.right (.under .root) .implies (.atom "P")).Encloses innerImplication
      "¬(P → " "Q → P" ")" := by
    refine ⟨rfl, by decide, fun s => ?_⟩
    show "¬" ++ ("(" ++ ("P" ++ " → " ++ s) ++ ")") = _
    exact String.toList_injective (by simp)
  refine ⟨hnamed, houter, hinner, ?_, ?_⟩
  · refine ((printed_parentheses_needed_unless_chained hnamed houter).2 _ _ rfl hunder).2 ?_
    rintro ⟨⟨_, _, h⟩, _⟩
    cases h
  · have hneeded := (printed_parentheses_needed_unless_chained hnamed hinner).2 _ _ rfl hright
    exact (hneeded.1 ⟨⟨_, _, rfl⟩, _, _, rfl⟩).1

end PropTutor
