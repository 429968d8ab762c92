import Mathlib.Data.List.Dedup
import Mathlib.Data.List.Induction
import Rewards.Assoc

/-! Lists and maps as lists of pairs: looking up is membership where no key comes twice. -/

namespace Rewards

/-- Where `f` tells the elements of a list apart, each is found by what `f` makes of it. -/
theorem find?_of_nodup_map {α β : Type} [DecidableEq β] {f : α → β} {l : List α}
    (h : (l.map f).Nodup) {a : α} (ha : a ∈ l) : l.find? (f · = f a) = some a := by
  have hsome : (l.find? (f · = f a)).isSome := List.find?_isSome.2 ⟨a, ha, by simp⟩
  obtain ⟨b, hb⟩ := Option.isSome_iff_exists.1 hsome
  have hf : f b = f a := by simpa using List.find?_some hb
  rw [hb, List.inj_on_of_nodup_map h (List.mem_of_find?_eq_some hb) ha hf]

namespace Assoc

variable {α β : Type} [BEq α] [LawfulBEq α]

theorem lookup_put_of_ne {key k : α} (h : k ≠ key) (value : β) (es : Assoc α β) :
    (es.put key value).lookup k = es.lookup k := by
  rw [lookup_put, if_neg (mt eq_of_beq h)]

theorem mem_of_lookup {es : Assoc α β} {k : α} {v : β} (h : es.lookup k = some v) : (k, v) ∈ es := by
  induction es with
  | nil => cases h
  | cons e es ih =>
    obtain ⟨n, l⟩ := e
    rw [List.lookup_cons] at h
    split at h
    · rename_i he
      cases h
      rw [eq_of_beq he]
      exact List.mem_cons_self
    · exact List.mem_cons_of_mem _ (ih h)

theorem lookup_of_mem {es : Assoc α β} (hn : (es.map (·.1)).Nodup) {e : α × β} (h : e ∈ es) :
    es.lookup e.1 = some e.2 := by
  induction es with
  | nil => cases h
  | cons d es ih =>
    rw [List.map_cons, List.nodup_cons] at hn
    rw [List.lookup_cons]
    obtain rfl | h := List.mem_cons.1 h
    · rw [beq_self_eq_true]
    · have hne : e.1 ≠ d.1 := by
        rintro he
        exact hn.1 (he ▸ List.mem_map_of_mem h)
      rw [beq_false_of_ne hne]
      exact ih hn.2 h

theorem lookup_congr {ds es : Assoc α β} (hn : (es.map (·.1)).Nodup) (hp : ds.Perm es) (k : α) :
    ds.lookup k = es.lookup k := by
  have hds : (ds.map (·.1)).Nodup := (hp.map _).nodup_iff.2 hn
  cases he : es.lookup k with
  | some v => exact lookup_of_mem hds (hp.mem_iff.2 (mem_of_lookup he))
  | none =>
    cases hd : ds.lookup k with
    | none => rfl
    | some v =>
      have hes : es.lookup k = some v := lookup_of_mem hn (hp.mem_iff.1 (mem_of_lookup hd))
      rw [he] at hes
      cases hes

theorem put_of_not_mem {es : Assoc α β} {k : α} (h : k ∉ es.map (·.1)) (v : β) :
    put k v es = es ++ [(k, v)] := by
  induction es with
  | nil => rfl
  | cons e es ih =>
    rw [List.map_cons, List.mem_cons, not_or] at h
    rw [put, if_neg (by simpa using Ne.symm h.1), ih h.2]
    rfl

theorem put_put (k : α) (u v : β) (es : Assoc α β) : put k v (put k u es) = put k v es := by
  induction es with
  | nil => simp [put]
  | cons e es ih => by_cases he : e.1 = k <;> simp [put, he, ih]

theorem nodup_put {es : Assoc α β} (h : (es.map (·.1)).Nodup) (k : α) (v : β) :
    ((put k v es).map (·.1)).Nodup := by
  rw [keys_put]
  split
  · exact h
  · rename_i hk
    rw [List.contains_iff_mem] at hk
    rw [List.nodup_append]
    refine ⟨h, by simp, fun a ha b hb => ?_⟩
    rw [List.mem_singleton.1 hb]
    rintro rfl
    exact hk ha

omit [LawfulBEq α] in
theorem ofList_concat (es : List (α × β)) (e : α × β) :
    ofList (es ++ [e]) = put e.1 e.2 (ofList es) := List.foldl_concat ..

theorem ofList_of_nodup {es : List (α × β)} (h : (es.map (·.1)).Nodup) : ofList es = es := by
  induction es using List.reverseRecOn with
  | nil => rfl
  | append_singleton es e ih =>
    rw [List.map_append, List.nodup_append] at h
    have he : e.1 ∉ es.map (·.1) := fun hm => h.2.2 _ hm _ List.mem_cons_self rfl
    rw [ofList_concat, ih h.1, put_of_not_mem he]

theorem nodup_ofList (es : List (α × β)) : ((ofList es).map (·.1)).Nodup := by
  induction es using List.reverseRecOn with
  | nil => exact List.nodup_nil
  | append_singleton es e ih =>
    rw [ofList_concat]
    exact nodup_put ih e.1 e.2

theorem mem_keys_ofList {es : List (α × β)} {k : α} :
    k ∈ (ofList es).map (·.1) ↔ k ∈ es.map (·.1) := by
  induction es using List.reverseRecOn with
  | nil => exact Iff.rfl
  | append_singleton es e ih =>
    rw [ofList_concat, keys_put, List.map_append, List.mem_append, ← ih, List.map_singleton]
    split
    · rename_i he
      rw [List.contains_iff_mem] at he
      exact ⟨.inl, fun h => h.elim id fun h => List.mem_singleton.1 h ▸ he⟩
    · exact List.mem_append

/-- Of several values for a key the last one counts. -/
theorem lookup_ofList (es : List (α × β)) (k : α) : (ofList es).lookup k = es.reverse.lookup k := by
  induction es using List.reverseRecOn with
  | nil => rfl
  | append_singleton es e ih =>
    rw [ofList_concat, lookup_put, ih, List.reverse_concat, List.lookup_cons]
    cases k == e.1 <;> rfl

/-- There are as many entries as different keys. -/
theorem length_ofList [DecidableEq α] (es : List (α × β)) :
    (ofList es).length = (es.map (·.1)).dedup.length := by
  have hperm : ((ofList es).map (·.1)).Perm (es.map (·.1)).dedup := by
    rw [List.perm_ext_iff_of_nodup (nodup_ofList es) (List.nodup_dedup _)]
    intro k
    rw [mem_keys_ofList, List.mem_dedup]
  rw [← hperm.length_eq, List.length_map]

section Ascending

variable {β : Type} {ds es : Assoc Int β}

/-- Where no number comes twice, sorting puts the numbers in ascending order. -/
theorem pairwise_mergeSort (h : (es.map (·.1)).Nodup) :
    (es.mergeSort fun a b => a.1 ≤ b.1).Pairwise fun a b => a.1 < b.1 := by
  have hle : (es.mergeSort fun a b => a.1 ≤ b.1).Pairwise fun a b => decide (a.1 ≤ b.1) = true := by
    apply List.pairwise_mergeSort
    · intro a b c hab hbc
      rw [decide_eq_true_eq] at *
      exact Int.le_trans hab hbc
    · intro a b
      rw [Bool.or_eq_true, decide_eq_true_eq, decide_eq_true_eq]
      exact Int.le_total _ _
  have hdistinct : ((es.mergeSort fun a b => a.1 ≤ b.1).map (·.1)).Nodup :=
    ((List.mergeSort_perm es _).map _).nodup_iff.2 h
  rw [List.Nodup, List.pairwise_map] at hdistinct
  exact (hle.and hdistinct).imp fun ⟨hab, hne⟩ => Int.lt_iff_le_and_ne.2 ⟨of_decide_eq_true hab, hne⟩

/-- Where no number comes twice, sorting forgets the order of the entries. -/
theorem mergeSort_congr (h : (es.map (·.1)).Nodup) (hp : ds.Perm es) :
    (ds.mergeSort fun a b => a.1 ≤ b.1) = es.mergeSort fun a b => a.1 ≤ b.1 := by
  refine List.Perm.eq_of_pairwise (fun a b _ _ hab hba => absurd hab (Int.lt_asymm hba))
    (pairwise_mergeSort ((hp.map _).nodup_iff.2 h)) (pairwise_mergeSort h) ?_
  exact (List.mergeSort_perm ds _).trans (hp.trans (List.mergeSort_perm es _).symm)

end Ascending

end Assoc

end Rewards
