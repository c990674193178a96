import OracleIndexer.Json.Access
set_option autoImplicit false

/-!
# Members of an object

What putting a member into an object does to the members found by their keys, and when the members
of an object are those that were put into it.
-/

namespace OracleIndexer.Json

theorem lookup_cons_eq_ite {α : Type} (k : String) (v : α) (rest : List (String × α))
    (key : String) : List.lookup key ((k, v) :: rest)
      = if key = k then some v else rest.lookup key := by
  rw [List.lookup_cons]
  by_cases h : key = k
  · rw [if_pos h, beq_iff_eq.mpr h]
  · rw [if_neg h, beq_eq_false_iff_ne.mpr h]

theorem member?_cons (k : String) (v : Json) (rest : List (String × Json)) (key : String) :
    member? ((k, v) :: rest) key = if key = k then some v else member? rest key :=
  lookup_cons_eq_ite k v rest key

/-- What was put under a key is found there, and the rest stays as it is. -/
theorem lookup_putMember {α : Type} (key : String) (value : α) (members : List (String × α))
    (other : String) : (putMember key value members).lookup other
      = if other = key then some value else members.lookup other := by
  induction members with
  | nil => rw [putMember, lookup_cons_eq_ite]
  | cons first rest ih =>
    obtain ⟨k, v⟩ := first
    rw [putMember]
    split
    · rename_i hkey
      subst hkey
      rw [lookup_cons_eq_ite, lookup_cons_eq_ite]
      split <;> rfl
    · rename_i hkey
      rw [lookup_cons_eq_ite, lookup_cons_eq_ite, ih]
      split
      · rename_i hother
        rw [if_neg (hother ▸ hkey)]
      · rfl

/-- The member put into an object is found under its key. -/
@[simp] theorem member?_putMember_self (key : String) (value : Json)
    (members : List (String × Json)) : member? (putMember key value members) key = some value := by
  rw [member?, lookup_putMember, if_pos rfl]

/-- The other members stay as they are. -/
theorem member?_putMember_of_ne {key other : String} (h : other ≠ key) (value : Json)
    (members : List (String × Json)) :
    member? (putMember key value members) other = member? members other := by
  rw [member?, lookup_putMember, if_neg h, member?]

@[simp] theorem memberOf_putMember_self (key : String) (value : Json)
    (members : List (String × Json)) : memberOf (putMember key value members) key = value := by
  rw [memberOf, member?_putMember_self, Option.getD_some]

theorem memberOf_putMember_of_ne {key other : String} (h : other ≠ key) (value : Json)
    (members : List (String × Json)) :
    memberOf (putMember key value members) other = memberOf members other := by
  rw [memberOf, member?_putMember_of_ne h, memberOf]

/-! ## Objects with distinct keys -/

/-- A member with a new key comes last. -/
theorem putMember_of_not_mem {key : String} {members : List (String × Json)}
    (h : key ∉ members.map Prod.fst) (value : Json) :
    putMember key value members = members ++ [(key, value)] := by
  induction members with
  | nil => rfl
  | cons first rest ih =>
    obtain ⟨k, v⟩ := first
    obtain ⟨hkey, hrest⟩ : key ≠ k ∧ key ∉ rest.map Prod.fst := by simpa using h
    rw [putMember, if_neg (Ne.symm hkey), ih hrest, List.cons_append]

/-- Members with distinct keys make up an object as they are. -/
theorem objectOf_of_nodup {members : List (String × Json)}
    (h : (members.map Prod.fst).Nodup) : objectOf members = .object members := by
  have hfold : ∀ later done : List (String × Json), ((done ++ later).map Prod.fst).Nodup →
      later.foldl (fun done m => putMember m.1 m.2 done) done = done ++ later := by
    intro later
    induction later with
    | nil => exact fun done _ => (List.append_nil done).symm
    | cons first rest ih =>
      intro done hnodup
      have hnew : first.1 ∉ done.map Prod.fst := by
        rw [List.map_append, List.nodup_append] at hnodup
        intro hmem
        exact hnodup.2.2 _ hmem _ List.mem_cons_self rfl
      rw [List.foldl_cons, putMember_of_not_mem hnew, ih, List.append_assoc]
      · rfl
      · rwa [List.append_assoc]
  rw [objectOf, hfold members [] h, List.nil_append]

end OracleIndexer.Json
