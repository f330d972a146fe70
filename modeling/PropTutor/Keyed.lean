/-
  Lists of keys with values.

  Such a list keeps the order in which its keys came. A key that is put a second time keeps
  its place and takes the new value, so the last value of a key is the one that is found
  (`lookup_dedupKeys`). Where every key comes once, nothing is lost (`dedupKeys_eq_self`) and the
  order does not matter for what is found (`lookup_eq_of_perm`).
-/
namespace PropTutor

/-- Give the key a value in a list of pairs: in its place if the key is there, at the end
    otherwise. -/
def putKey {α β : Type} [BEq α] (k : α) (v : β) : List (α × β) → List (α × β)
  | [] => [(k, v)]
  | (k', v') :: rest => if k == k' then (k', v) :: rest else (k', v') :: putKey k v rest

/-- A list of pairs with each key once, in the place of its first and with the value of its
    last occurrence. -/
def dedupKeys {α β : Type} [BEq α] (pairs : List (α × β)) : List (α × β) :=
  pairs.foldl (fun done p => putKey p.1 p.2 done) []

/-- A key that was put has the value it was put with, and other keys keep theirs. -/
theorem lookup_putKey {α β : Type} [BEq α] [LawfulBEq α] (j k : α) (v : β)
    (pairs : List (α × β)) :
    (putKey k v pairs).lookup j = if j == k then some v else pairs.lookup j := by
  induction pairs with
  | nil => cases h : j == k <;> simp [putKey, List.lookup_cons, h]
  | cons p pairs ih =>
    obtain ⟨k', v'⟩ := p
    cases hk : k == k' with
    | true =>
      obtain rfl := eq_of_beq hk
      cases h : j == k <;> simp [putKey, List.lookup_cons, h]
    | false =>
      cases h : j == k' with
      | true =>
        obtain rfl := eq_of_beq h
        have hne : (j == k) = false := by
          rw [beq_eq_false_iff_ne] at hk ⊢
          exact fun e => hk e.symm
        simp [putKey, hk, hne]
      | false => simp [putKey, List.lookup_cons, hk, h, ih]

/-- The value of a key is the one of its last occurrence. -/
theorem lookup_dedupKeys {α β : Type} [BEq α] [LawfulBEq α] (j : α) (pairs : List (α × β)) :
    (dedupKeys pairs).lookup j = pairs.reverse.lookup j := by
  rw [dedupKeys, ← List.foldr_reverse]
  induction pairs.reverse with
  | nil => rfl
  | cons p rest ih =>
    obtain ⟨k, v⟩ := p
    rw [List.foldr_cons, lookup_putKey, ih, List.lookup_cons]
    cases j == k <;> rfl

/-- A key that is not there comes in at the end. -/
theorem putKey_of_notMem {α β : Type} [BEq α] [LawfulBEq α] {k : α} {pairs : List (α × β)} (v : β)
    (h : k ∉ pairs.map Prod.fst) : putKey k v pairs = pairs ++ [(k, v)] := by
  induction pairs with
  | nil => rfl
  | cons p pairs ih =>
    have hne : (k == p.1) = false := beq_eq_false_iff_ne.2 fun e => h (e ▸ List.mem_cons_self ..)
    have hrest : k ∉ pairs.map Prod.fst := fun hmem => h (List.mem_cons_of_mem _ hmem)
    rw [putKey, hne, ih hrest]
    rfl

/-- A list in which every key comes once stays as it is. -/
theorem dedupKeys_eq_self {α β : Type} [BEq α] [LawfulBEq α] {pairs : List (α × β)}
    (h : (pairs.map Prod.fst).Nodup) : dedupKeys pairs = pairs := by
  have hfold : ∀ (rest done : List (α × β)), ((done ++ rest).map Prod.fst).Nodup →
      rest.foldl (fun done p => putKey p.1 p.2 done) done = done ++ rest := by
    intro rest
    induction rest with
    | nil => exact fun done _ => (List.append_nil done).symm
    | cons p rest ih =>
      intro done hnodup
      have hnew : p.1 ∉ done.map Prod.fst := by
        rw [List.map_append, List.nodup_append] at hnodup
        exact fun hmem => hnodup.2.2 p.1 hmem p.1 (List.mem_cons_self ..) rfl
      have hmoved : done ++ p :: rest = done ++ [p] ++ rest := List.append_cons done p rest
      rw [List.foldl_cons, putKey_of_notMem p.2 hnew, hmoved]
      exact ih (done ++ [p]) (hmoved ▸ hnodup)
  exact hfold pairs [] h

/-- The order of pairs with distinct keys does not matter for what is found. -/
theorem lookup_eq_of_perm {α β : Type} [BEq α] [LawfulBEq α] {pairs pairs' : List (α × β)}
    (h : pairs.Perm pairs') (hnodup : (pairs.map Prod.fst).Nodup) (k : α) :
    pairs.lookup k = pairs'.lookup k := by
  induction h with
  | nil => rfl
  | cons p _ ih => rw [List.lookup_cons, List.lookup_cons, ih (List.nodup_cons.1 hnodup).2]
  | swap p q rest =>
    have hne : q.1 ≠ p.1 := fun e => (List.nodup_cons.1 hnodup).1 (e ▸ List.mem_cons_self ..)
    rw [List.lookup_cons, List.lookup_cons, List.lookup_cons, List.lookup_cons]
    cases hp : k == p.1 with
    | false => rfl
    | true =>
      have hq : (k == q.1) = false :=
        beq_eq_false_iff_ne.2 fun e => hne (e.symm.trans (eq_of_beq hp))
      rw [hq]
  | trans h _ ih ih' => exact (ih hnodup).trans (ih' ((h.map Prod.fst).nodup_iff.1 hnodup))

end PropTutor
