/-! Maps as lists of pairs, in the order in which the keys were first put. -/

namespace Rewards

abbrev Assoc (α β : Type) := List (α × β)

namespace Assoc

variable {α β : Type} [BEq α] [LawfulBEq α]

/-- A key that is put again keeps its place. -/
def put (key : α) (value : β) : Assoc α β → Assoc α β
  | [] => [(key, value)]
  | e :: es => if e.1 == key then (e.1, value) :: es else e :: put key value es

def ofList (es : List (α × β)) : Assoc α β := es.foldl (fun m e => put e.1 e.2 m) []

theorem lookup_put (key k : α) (value : β) (es : Assoc α β) :
    (put key value es).lookup k = if k == key then some value else es.lookup k := by
  induction es with
  | nil => by_cases h : k = key <;> simp [put, h, beq_false_of_ne]
  | cons e es ih =>
    obtain ⟨n, l⟩ := e
    simp only [put]
    split
    · rename_i h
      rw [beq_iff_eq] at h
      subst h
      by_cases hk : k = n <;> simp [List.lookup_cons, hk, beq_false_of_ne]
    · rename_i h
      rw [beq_iff_eq] at h
      by_cases hk : k = n
      · subst hk; simp [h, beq_false_of_ne]
      · simp [List.lookup_cons, beq_false_of_ne hk, ih]

/-- The keys after a put: a new one comes last. -/
theorem keys_put (key : α) (value : β) (es : Assoc α β) :
    (put key value es).map (·.1) =
      if (es.map (·.1)).contains key then es.map (·.1) else es.map (·.1) ++ [key] := by
  induction es with
  | nil => simp [put]
  | cons e es ih =>
    by_cases h : e.1 = key
    · simp [put, h]
    · simp only [put, beq_false_of_ne h, Bool.false_eq_true, if_false, List.map_cons, ih,
        List.contains_cons, beq_false_of_ne (Ne.symm h), Bool.false_or]
      split <;> simp

end Assoc

end Rewards
