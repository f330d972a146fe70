/-
  The keys that a reading looks at.

  A record is read from the first key of each of its fields that is there. So a member under any
  other key makes no difference, and neither does the second key of a field in the place of its
  stored one (`KnownKeys.fieldwise_of_change`). The same holds for the records in a list. A reading
  that is composed of such readings reads from a changed value what it reads from the value itself,
  be it a record or issues (`KnownKeys.Respects`).
-/
import Mathlib.Data.List.Pairwise
import Mathlib.Logic.Relation
import PropTutor.Proofs.Exercise.Decode

namespace PropTutor

variable {α β : Type}

/-- The keys that a reading knows: none in a plain value, those in the items of a list, or those of
    the fields of a record, each with what the reading of the field knows. -/
inductive KnownKeys where
  | plain
  | items (item : KnownKeys)
  | fields (fields : List (List String × KnownKeys))

namespace KnownKeys

/-- The members with the key `new` in the place of `old`. -/
def rekey (old new : String) (members : List (String × Json)) : List (String × Json) :=
  members.map fun m => (if m.1 = old then new else m.1, m.2)

/-- A change to a value: a record gets a member under an unknown key, or a field of it gets its
    second key in the place of the stored one if that is not there; or it is a change to the value
    of a field or to an item of a list. -/
inductive Change : KnownKeys → Json → Json → Prop where
  | unknown {fields : List (List String × KnownKeys)} {k : String} (v : Json)
      (before after : List (String × Json)) (hunknown : ∀ f ∈ fields, k ∉ f.1) :
      Change (.fields fields) (.object (before ++ after)) (.object (before ++ (k, v) :: after))
  | renamed {fields : List (List String × KnownKeys)} {stored second : String} {known : KnownKeys}
      {members : List (String × Json)} (hfield : ([stored, second], known) ∈ fields)
      (habsent : second ∉ members.map Prod.fst) :
      Change (.fields fields) (.object members) (.object (rekey stored second members))
  | field {fields : List (List String × KnownKeys)} {keys : List String} {known : KnownKeys}
      {k : String} {v v' : Json} (before after : List (String × Json))
      (hfield : (keys, known) ∈ fields) (hk : k ∈ keys) (hv : Change known v v') :
      Change (.fields fields) (.object (before ++ (k, v) :: after))
        (.object (before ++ (k, v') :: after))
  | item {known : KnownKeys} {v v' : Json} (before after : List Json) (hv : Change known v v') :
      Change (.items known) (.list (before ++ v :: after)) (.list (before ++ v' :: after))

/-- Any number of changes. -/
abbrev Changes (known : KnownKeys) : Json → Json → Prop := Relation.ReflTransGen known.Change

variable {fields : List (List String × KnownKeys)} {keys : List String} {known : KnownKeys}
  {members members' : List (String × Json)} {read : Json → Checked α}

/-! ## What is found -/

theorem lookup_insert {j k : String} (v : Json) (before after : List (String × Json)) (h : j ≠ k) :
    (before ++ (k, v) :: after).lookup j = (before ++ after).lookup j := by
  rw [List.lookup_append, List.lookup_append, List.lookup_cons, beq_eq_false_iff_ne.2 h]

/-- A new key finds what the old one has found, and the old one finds nothing any more. -/
theorem lookup_rekey {old new : String} (h : new ∉ members.map Prod.fst) (j : String) :
    (rekey old new members).lookup j =
      if j = new then members.lookup old else if j = old then none else members.lookup j := by
  induction members with
  | nil =>
    rw [rekey, List.map_nil, List.lookup_nil, List.lookup_nil, ite_self, ite_self]
  | cons m members ih =>
    obtain ⟨hm, hmembers⟩ := not_or.1 (List.mem_cons.not.1 h)
    rw [rekey, List.map_cons, List.lookup_cons, ← rekey, ih hmembers, List.lookup_cons,
      List.lookup_cons]
    by_cases hold : m.1 = old
    · rw [if_pos hold, hold, beq_self_eq_true]
      by_cases hj : j = new
      · rw [if_pos hj, if_pos hj, hj, beq_self_eq_true]
      · rw [if_neg hj, if_neg hj, beq_eq_false_iff_ne.2 hj]
        by_cases hj' : j = old
        · rw [if_pos hj', if_pos hj']
        · rw [if_neg hj', if_neg hj', beq_eq_false_iff_ne.2 hj']
    · rw [if_neg hold, beq_eq_false_iff_ne.2 (Ne.symm hold)]
      by_cases hj : j = new
      · rw [if_pos hj, if_pos hj, hj, beq_eq_false_iff_ne.2 hm]
      · rw [if_neg hj, if_neg hj]
        by_cases hj' : j = old
        · rw [if_pos hj', if_pos hj', hj', beq_eq_false_iff_ne.2 (Ne.symm hold)]
        · rw [if_neg hj', if_neg hj']

theorem first?_congr (h : ∀ k ∈ keys, members'.lookup k = members.lookup k) :
    Field.first? members' keys = Field.first? members keys := by
  induction keys with
  | nil => rfl
  | cons k keys ih =>
    obtain ⟨hk, hkeys⟩ := List.forall_mem_cons.1 h
    have hrest := ih hkeys
    rw [Field.first?] at hrest ⊢
    rw [List.findSome?_cons, hk, hrest]
    rfl

/-- A field has its value under a new second key as it had it under the stored one. -/
theorem first?_rekey {stored second : String} (h : second ∉ members.map Prod.fst) :
    Field.first? (rekey stored second members) [stored, second] =
      Field.first? members [stored, second] := by
  have hsecond : members.lookup second = none := by
    rw [List.lookup_eq_none_iff]
    exact fun m hm => bne_iff_ne.2 fun e => h (e ▸ List.mem_map_of_mem hm)
  have hfirst : ∀ ms : List (String × Json),
      Field.first? ms [stored, second] = (ms.lookup stored).or (ms.lookup second) := by
    intro ms
    rw [Field.first?, List.findSome?_cons, List.findSome?_cons, List.findSome?_nil]
    cases ms.lookup stored <;> cases ms.lookup second <;> rfl
  rw [hfirst, hfirst, lookup_rekey h, lookup_rekey h, if_pos rfl, hsecond, Option.or_none,
    if_pos rfl]
  by_cases hsame : stored = second
  · rw [if_pos hsame, Option.or_self]
  · rw [if_neg hsame, Option.none_or]

/-- Another value of one member makes a difference only where this value is found. -/
theorem lookup_update (k : String) (v v' : Json) (before after : List (String × Json))
    (j : String) :
    (before ++ (k, v') :: after).lookup j = (before ++ (k, v) :: after).lookup j ∨
      j = k ∧ (before ++ (k, v) :: after).lookup j = some v ∧
        (before ++ (k, v') :: after).lookup j = some v' := by
  rw [List.lookup_append, List.lookup_append, List.lookup_cons, List.lookup_cons]
  cases before.lookup j with
  | some w => exact .inl rfl
  | none =>
    cases hj : j == k with
    | true => exact .inr ⟨eq_of_beq hj, rfl, rfl⟩
    | false => exact .inl rfl

theorem first?_update (k : String) (v v' : Json) (before after : List (String × Json))
    (keys : List String) :
    Field.first? (before ++ (k, v') :: after) keys =
        Field.first? (before ++ (k, v) :: after) keys ∨
      k ∈ keys ∧ Field.first? (before ++ (k, v) :: after) keys = some v ∧
        Field.first? (before ++ (k, v') :: after) keys = some v' := by
  induction keys with
  | nil => exact .inl rfl
  | cons j keys ih =>
    unfold Field.first? at ih ⊢
    rw [List.findSome?_cons, List.findSome?_cons]
    rcases lookup_update k v v' before after j with hsame | ⟨rfl, hv, hv'⟩
    · rw [hsame]
      cases (before ++ (k, v) :: after).lookup j with
      | some w => exact .inl rfl
      | none => exact ih.imp_right fun ⟨hk, hfound⟩ => ⟨List.mem_cons_of_mem _ hk, hfound⟩
    · rw [hv, hv']
      exact .inr ⟨List.mem_cons_self .., rfl, rfl⟩

/-- No two fields share a key. -/
def Distinct (fields : List (List String × KnownKeys)) : Prop :=
  fields.Pairwise fun f g => ∀ k ∈ f.1, k ∉ g.1

instance (fields : List (List String × KnownKeys)) : Decidable (Distinct fields) :=
  inferInstanceAs (Decidable (fields.Pairwise fun f g => ∀ k ∈ f.1, k ∉ g.1))

theorem Distinct.eq_of_mem (h : Distinct fields) {f g : List String × KnownKeys} (hf : f ∈ fields)
    (hg : g ∈ fields) {k : String} (hkf : k ∈ f.1) (hkg : k ∈ g.1) : f = g := by
  by_contra hne
  have hsymm : Std.Symm fun f g : List String × KnownKeys => ∀ k ∈ f.1, k ∉ g.1 :=
    ⟨fun f g h k hk hk' => h k hk' hk⟩
  exact List.Pairwise.forall h hf hg hne k hkf hkg

/-- Every field has the value that it had, or a changed one. -/
def FieldwiseChange (fields : List (List String × KnownKeys))
    (members members' : List (String × Json)) : Prop :=
  ∀ f ∈ fields, Field.first? members' f.1 = Field.first? members f.1 ∨
    ∃ v v', Field.first? members f.1 = some v ∧ Field.first? members' f.1 = some v' ∧
      f.2.Change v v'

/-- A change to a record is one to its fields. -/
theorem fieldwise_of_change (hdistinct : Distinct fields)
    (h : Change (.fields fields) (.object members) (.object members')) :
    FieldwiseChange fields members members' := by
  rintro ⟨keys, known⟩ hfield
  cases h with
  | unknown v before after hunknown =>
    refine .inl (first?_congr fun k hk => lookup_insert v before after ?_)
    rintro rfl
    exact hunknown _ hfield hk
  | @renamed _ stored second known' _ hfield' habsent =>
    left
    by_cases hkeys : keys = [stored, second]
    · subst hkeys
      exact first?_rekey habsent
    · -- a field with other keys has none of these two
      refine first?_congr fun k hk => ?_
      have hapart : k ∉ [stored, second] := fun hk' =>
        hkeys (congrArg Prod.fst (hdistinct.eq_of_mem hfield hfield' hk hk'))
      obtain ⟨hstored, hsecond⟩ := not_or.1 (List.mem_pair.not.1 hapart)
      rw [lookup_rekey habsent, if_neg hsecond, if_neg hstored]
  | @field _ keys' known' k v v' before after hfield' hk hv =>
    refine (first?_update k v v' before after keys).imp_right fun ⟨hmem, hfound, hfound'⟩ => ?_
    -- the changed value is the one of this field, and so it was changed as one of this field
    obtain rfl : known = known' :=
      congrArg Prod.snd (hdistinct.eq_of_mem hfield hfield' hmem hk)
    exact ⟨v, v', hfound, hfound', hv⟩

/-! ## Readings -/

/-- The reading reads the same from a changed value, a value or issues. -/
def Respects (known : KnownKeys) (read : Json → Checked α) : Prop :=
  ∀ v v', known.Change v v' → read v' = read v

/-- The reading reads the same from members of which the fields are changed. -/
def FieldsRespect (fields : List (List String × KnownKeys))
    (read : List (String × Json) → Checked α) : Prop :=
  ∀ members members', FieldwiseChange fields members members' → read members' = read members

theorem respects_plain (read : Json → Checked α) : plain.Respects read := nofun

theorem Respects.of_changes (h : known.Respects read) {v v' : Json}
    (hchanges : known.Changes v v') : read v' = read v := by
  induction hchanges with
  | refl => rfl
  | tail _ hchange ih => exact (h _ _ hchange).trans ih

/-- What a list is checked for is checked item by item. -/
theorem all_congr {read : α → Checked β} {a a' : α} (h : read a' = read a)
    (before after : List α) :
    Checked.all read (before ++ a' :: after) = Checked.all read (before ++ a :: after) := by
  induction before with
  | nil => rw [List.nil_append, List.nil_append, Checked.all, Checked.all, h]
  | cons b before ih => rw [List.cons_append, List.cons_append, Checked.all, Checked.all, ih]

theorem Respects.list (h : known.Respects read) : (items known).Respects (Field.list read) := by
  intro v v' hchange
  cases hchange with
  | item before after hitem => exact all_congr (h _ _ hitem) before after

theorem FieldsRespect.required (h : known.Respects read) (hfield : (keys, known) ∈ fields) :
    FieldsRespect fields (Field.required keys read) := by
  intro members members' hchange
  unfold Field.required
  rcases hchange _ hfield with hsame | ⟨v, v', hv, hv', hvalue⟩
  · rw [hsame]
  · rw [hv, hv']
    exact h v v' hvalue

theorem FieldsRespect.defaulted (default : α) (h : known.Respects read)
    (hfield : (keys, known) ∈ fields) :
    FieldsRespect fields (Field.defaulted keys default read) := by
  intro members members' hchange
  unfold Field.defaulted
  rcases hchange _ hfield with hsame | ⟨v, v', hv, hv', hvalue⟩
  · rw [hsame]
  · rw [hv, hv']
    exact h v v' hvalue

section

variable {readFields : List (String × Json) → Checked α}

theorem FieldsRespect.map (h : FieldsRespect fields readFields) (f : α → β) :
    FieldsRespect fields fun m => f <$> readFields m :=
  fun members members' hchange => congrArg (f <$> ·) (h members members' hchange)

theorem FieldsRespect.seq {f : List (String × Json) → Checked (α → β)}
    (hf : FieldsRespect fields f) (h : FieldsRespect fields readFields) :
    FieldsRespect fields fun m => f m <*> readFields m := by
  intro members members' hchange
  show f members' <*> readFields members' = f members <*> readFields members
  rw [hf members members' hchange, h members members' hchange]

theorem FieldsRespect.record (h : FieldsRespect fields readFields) (hdistinct : Distinct fields)
    (name : String) : Respects (.fields fields) (Field.record name readFields) := by
  intro v v' hchange
  -- only objects are changed, and into objects
  obtain ⟨members, rfl⟩ : ∃ members, v = .object members := by cases hchange <;> exact ⟨_, rfl⟩
  obtain ⟨members', rfl⟩ : ∃ members', v' = .object members' := by cases hchange <;> exact ⟨_, rfl⟩
  exact h members members' (fieldwise_of_change hdistinct hchange)

end

end KnownKeys

end PropTutor
