import Mathlib.Data.List.Induction
import Rewards.Proofs.Assoc
import Rewards.Proofs.Outcome
import Rewards.Registry

/-!
Runs of registrations. A registry holds the kinds of clients in the order of their first registration
without a flaw, each as that registration asked for it, and after them the built-in kinds. Nothing
that is installed changes any more.
-/

namespace Rewards

/-- A call to register a kind, with the label and the reader that are given for it. -/
structure Registration where
  kind : Kind
  label : Slot Label
  reader : Slot BodyReader

namespace Registration

/-- The entry that is asked for, as number `order` of its table. -/
def entry (q : Registration) (order : Nat) : Except KindFlaw Entry :=
  Entry.ofKind q.kind q.label q.reader order

/-- There is a label without a flaw and a reader. -/
def isSound (q : Registration) : Bool := (q.entry 0).isOk

def isBuiltIn (q : Registration) : Bool := (Registry.core.map (·.kind)).contains q.kind.name

end Registration

theorem Entry.ofKind_eq_ok_iff {k : Kind} {label : Slot Label} {reader : Slot BodyReader}
    {order : Nat} {e : Entry} :
    ofKind k label reader order = .ok e ↔ ∃ l r o, label.orElse k.label = .given l ∧
      reader.orElse (k.ofBody.orElse k.read) = .given r ∧ l.opening = .ok o ∧
      e = ⟨k.name, l, o, r, order⟩ := by
  unfold ofKind
  cases label.orElse k.label with
  | missing => simp
  | unusable => simp
  | given l =>
    cases reader.orElse (k.ofBody.orElse k.read) with
    | missing => simp
    | unusable => simp
    | given r => simp [Outcome.map_eq_ok_iff, @eq_comm _ _ e]

/-- An opening comes from a label without a flaw. -/
theorem Label.flaw?_of_opening {l : Label} {o : Opening} (h : l.opening = .ok o) :
    l.flaw? = none := by
  unfold opening at h
  split at h
  · cases h
  · assumption

namespace Registration

variable {q : Registration} {e : Entry} {i : Nat}

theorem fields_of_entry (h : q.entry i = .ok e) : e.kind = q.kind.name ∧ e.order = i := by
  obtain ⟨l, r, o, -, -, -, rfl⟩ := Entry.ofKind_eq_ok_iff.1 h
  exact ⟨rfl, rfl⟩

/-- An entry keeps the reader and the label it was made of, and the opening of that label. -/
theorem parts_of_entry (h : q.entry i = .ok e) :
    q.reader.orElse (q.kind.ofBody.orElse q.kind.read) = .given e.reader ∧
      q.label.orElse q.kind.label = .given e.label ∧ e.label.opening = .ok e.opening := by
  obtain ⟨l, r, o, hl, hr, ho, rfl⟩ := Entry.ofKind_eq_ok_iff.1 h
  exact ⟨hr, hl, ho⟩

/-- Whether an entry can be made does not depend on its number. -/
theorem entry_renumbered (h : q.entry i = .ok e) (j : Nat) :
    q.entry j = .ok { e with order := j } := by
  obtain ⟨l, r, o, hl, hr, ho, rfl⟩ := Entry.ofKind_eq_ok_iff.1 h
  exact Entry.ofKind_eq_ok_iff.2 ⟨l, r, o, hl, hr, ho, rfl⟩

theorem isSound_of_entry (h : q.entry i = .ok e) : q.isSound = true := by
  unfold isSound
  rw [entry_renumbered h 0]
  rfl

theorem not_isSound_of_entry {f : KindFlaw} (h : q.entry i = .error f) : q.isSound = false := by
  rw [Bool.eq_false_iff]
  intro hs
  unfold isSound at hs
  cases h0 : q.entry 0 with
  | error f =>
    rw [h0] at hs
    cases hs
  | ok e =>
    have hi := entry_renumbered h0 i
    rw [h] at hi
    cases hi

end Registration

namespace Registry

def serve (r : Registry) (q : Registration) : Except KindFlaw Entry × Registry :=
  r.register q.kind q.label q.reader

def registerAll (r : Registry) (qs : List Registration) : Registry :=
  qs.foldl (fun r q => (r.serve q).2) r

/-- The kinds that a run of registrations installs, in order: each comes where a registration of it
is first without a flaw. -/
def newKinds (qs : List Registration) : List Text :=
  ((qs.filter fun q => q.isSound && !q.isBuiltIn).map (·.kind.name)).eraseDups

/-- What a run of registrations makes of the table of clients. -/
structure Holds (r : Registry) (qs : List Registration) : Prop where
  kinds : r.custom.map (·.kind) = newKinds qs
  made : ∀ i e, r.custom[i]? = some e →
    ∃ q, qs.find? (fun q => q.isSound && q.kind.name == e.kind) = some q ∧ q.entry i = .ok e
  nodup : (r.entries.map (·.kind)).Nodup

theorem newKinds_concat (qs : List Registration) (q : Registration) :
    newKinds (qs ++ [q]) = if q.isSound ∧ ¬q.isBuiltIn ∧ q.kind.name ∉ newKinds qs
      then newKinds qs ++ [q.kind.name] else newKinds qs := by
  unfold newKinds
  rw [List.filter_append, List.map_append, List.eraseDups_append]
  by_cases hq : q.isSound ∧ ¬q.isBuiltIn
  · rw [List.filter_cons_of_pos (by simpa using hq)]
    by_cases hn : q.kind.name ∈ (qs.filter fun q => q.isSound && !q.isBuiltIn).map (·.kind.name)
    · simp [List.removeAll, hn]
    · simp [List.removeAll, hn, hq, List.eraseDups_cons]
  · rw [List.filter_cons_of_neg (by simpa using hq), if_neg fun h => hq ⟨h.1, h.2.1⟩]
    simp [List.removeAll]

theorem mem_newKinds {qs : List Registration} {q : Registration} (hq : q ∈ qs)
    (hs : q.isSound = true) (hb : ¬q.isBuiltIn) : q.kind.name ∈ newKinds qs := by
  unfold newKinds
  rw [List.mem_eraseDups]
  apply List.mem_map_of_mem
  simp [hq, hs, hb]

theorem entry?_eq_none_iff {r : Registry} {kind : Text} :
    r.entry? kind = none ↔ kind ∉ r.entries.map (·.kind) := by
  unfold entry?
  simp [List.find?_eq_none]

/-- The entry of an installed kind is found. -/
theorem entry?_of_mem {r : Registry} (h : (r.entries.map (·.kind)).Nodup) {e : Entry}
    (he : e ∈ r.entries) : r.entry? e.kind = some e := find?_of_nodup_map h he

variable {r : Registry} {qs : List Registration}

theorem holds_empty : Holds empty [] where
  kinds := rfl
  made := by simp [empty]
  nodup := by decide

theorem Holds.keep (h : Holds r qs) {q : Registration}
    (hq : q.isSound = true → q.kind.name ∈ r.entries.map (·.kind)) : Holds r (qs ++ [q]) where
  kinds := by
    rw [newKinds_concat, if_neg, h.kinds]
    rintro ⟨hs, hb, hn⟩
    have hmem := hq hs
    unfold entries at hmem
    rw [List.map_append, h.kinds, List.mem_append] at hmem
    obtain hmem | hmem := hmem
    · exact hn hmem
    · exact hb (List.contains_iff_mem.2 hmem)
  made i e he := by
    obtain ⟨q', hf, hq'⟩ := h.made i e he
    exact ⟨q', by rw [List.find?_append, hf, Option.some_or], hq'⟩
  nodup := h.nodup

/-- A new kind comes behind the others of clients. -/
theorem Holds.install (h : Holds r qs) {q : Registration} {e : Entry}
    (hn : q.kind.name ∉ r.entries.map (·.kind)) (he : q.entry r.custom.length = .ok e) :
    Holds ⟨r.custom ++ [e]⟩ (qs ++ [q]) := by
  have hkind := (Registration.fields_of_entry he).1
  have hsound := Registration.isSound_of_entry he
  have hsplit := hn
  unfold entries at hsplit
  rw [List.map_append, List.mem_append, not_or, h.kinds] at hsplit
  have hbuilt : ¬q.isBuiltIn := fun hb => hsplit.2 (List.contains_iff_mem.1 hb)
  refine ⟨?_, fun i e' hi => ?_, ?_⟩
  · rw [newKinds_concat, if_pos ⟨hsound, hbuilt, hsplit.1⟩, ← h.kinds, ← hkind]
    simp
  · rw [List.find?_append]
    obtain hi' | hi' := Nat.lt_or_ge i r.custom.length
    · rw [List.getElem?_append_left hi'] at hi
      obtain ⟨q', hf, hq'⟩ := h.made i e' hi
      exact ⟨q', by rw [hf, Option.some_or], hq'⟩
    · rw [List.getElem?_append_right hi', List.getElem?_singleton] at hi
      split at hi
      · rename_i hi0
        obtain rfl : e = e' := Option.some.inj hi
        obtain rfl : i = r.custom.length := by omega
        refine ⟨q, ?_, he⟩
        rw [List.find?_eq_none.2, Option.none_or, List.find?_singleton, if_pos]
        · simp [hsound, hkind]
        · -- An earlier registration of the kind without a flaw would have installed it.
          intro q' hq' hf
          rw [Bool.and_eq_true, beq_iff_eq, hkind] at hf
          have hb' : ¬q'.isBuiltIn := by
            unfold Registration.isBuiltIn
            rw [hf.2]
            exact hbuilt
          exact hsplit.1 (hf.2 ▸ mem_newKinds hq' hf.1 hb')
      · cases hi
  · have hnodup := h.nodup
    unfold entries at hnodup hn ⊢
    rw [List.append_assoc, List.singleton_append]
    rw [List.map_append, List.map_cons, List.nodup_middle, List.nodup_cons, hkind,
      ← List.map_append]
    exact ⟨hn, hnodup⟩

theorem serve_of_mem {q : Registration} {e : Entry} (h : r.entry? q.kind.name = some e) :
    r.serve q = (.ok e, r) := by
  unfold serve register
  rw [h]

theorem serve_of_not_mem {q : Registration} (h : r.entry? q.kind.name = none) :
    r.serve q = match q.entry r.custom.length with
      | .ok e => (.ok e, ⟨r.custom ++ [e]⟩)
      | .error f => (.error f, r) := by
  unfold serve register
  rw [h]
  rfl

theorem Holds.serve (h : Holds r qs) (q : Registration) : Holds (r.serve q).2 (qs ++ [q]) := by
  cases hf : r.entry? q.kind.name with
  | some e =>
    rw [serve_of_mem hf]
    apply h.keep
    intro _
    by_contra hn
    rw [entry?_eq_none_iff.2 hn] at hf
    cases hf
  | none =>
    rw [serve_of_not_mem hf]
    cases he : q.entry r.custom.length with
    | ok e => exact h.install (entry?_eq_none_iff.1 hf) he
    | error f =>
      apply h.keep
      intro hs
      rw [Registration.not_isSound_of_entry he] at hs
      cases hs

theorem holds_registerAll (qs : List Registration) : Holds (empty.registerAll qs) qs := by
  -- From the back: the last call meets the registry that the others have made.
  induction qs using List.reverseRecOn with
  | nil => exact holds_empty
  | append_singleton qs q ih =>
    unfold registerAll
    rw [List.foldl_append]
    exact ih.serve q

/-- Later calls add to the kinds of clients behind those that are there. -/
theorem custom_prefix_serve (r : Registry) (q : Registration) :
    r.custom <+: (r.serve q).2.custom := by
  cases hf : r.entry? q.kind.name with
  | some e =>
    have h : (r.serve q).2.custom = r.custom := by rw [serve_of_mem hf]
    exact ⟨[], by rw [List.append_nil]; exact h.symm⟩
  | none =>
    rw [serve_of_not_mem hf]
    cases q.entry r.custom.length with
    | ok e => exact List.prefix_append _ _
    | error f => exact List.prefix_rfl

theorem custom_prefix_registerAll (r : Registry) (qs : List Registration) :
    r.custom <+: (r.registerAll qs).custom := by
  induction qs generalizing r with
  | nil => exact List.prefix_rfl
  | cons q qs ih => exact (custom_prefix_serve r q).trans (ih _)

/-- A call that fails leaves the registry as it is. -/
theorem serve_of_error {q : Registration} {f : KindFlaw} (h : (r.serve q).1 = .error f) :
    (r.serve q).2 = r := by
  cases hf : r.entry? q.kind.name with
  | some e => rw [serve_of_mem hf]
  | none =>
    rw [serve_of_not_mem hf] at h ⊢
    cases he : q.entry r.custom.length with
    | ok e =>
      rw [he] at h
      cases h
    | error f => rfl

/-- The built-in entries are what a registration of their kinds would make, too. -/
theorem exists_entry_of_mem_core {e : Entry} (he : e ∈ core) :
    ∃ q : Registration, q.entry e.order = .ok e := by
  have hc : Currency.label.opening = .ok Currency.opening := by decide +kernel
  have hp : Permission.label.opening = .ok Permission.opening := by decide +kernel
  have hf : Effect.label.opening = .ok Effect.opening := by decide +kernel
  simp only [core, List.mem_cons, List.not_mem_nil, or_false] at he
  obtain rfl | rfl | rfl := he
  · exact ⟨⟨.currency, .missing, .missing⟩, Entry.ofKind_eq_ok_iff.2 ⟨_, _, _, rfl, rfl, hc, rfl⟩⟩
  · exact ⟨⟨.permission, .missing, .missing⟩, Entry.ofKind_eq_ok_iff.2 ⟨_, _, _, rfl, rfl, hp, rfl⟩⟩
  · exact ⟨⟨.effect, .missing, .missing⟩, Entry.ofKind_eq_ok_iff.2 ⟨_, _, _, rfl, rfl, hf, rfl⟩⟩

theorem isOk_serve_iff {q : Registration} :
    (r.serve q).1.isOk ↔ q.isSound ∨ q.kind.name ∈ r.entries.map (·.kind) := by
  cases hf : r.entry? q.kind.name with
  | some e =>
    have hmem : q.kind.name ∈ r.entries.map (·.kind) := by
      by_contra hn
      rw [entry?_eq_none_iff.2 hn] at hf
      cases hf
    rw [serve_of_mem hf]
    exact iff_of_true rfl (.inr hmem)
  | none =>
    have hn := entry?_eq_none_iff.1 hf
    rw [serve_of_not_mem hf]
    cases he : q.entry r.custom.length with
    | ok e => exact iff_of_true rfl (.inl (Registration.isSound_of_entry he))
    | error f =>
      apply iff_of_false
      · exact Bool.false_ne_true
      · rw [Registration.not_isSound_of_entry he]
        rintro (hs | hmem)
        · cases hs
        · exact hn hmem

/-- After any run of registrations: the kinds of clients in the order of their first registration
without a flaw, then the built-in kinds, each once; every entry is what a registration asked for,
with a label without a flaw and the opening of that label; what is installed stays, whatever comes
later, and is the answer to every further registration of its kind. -/
theorem registered_in_order (qs : List Registration) :
    let r := empty.registerAll qs
    r.entries.map (·.kind) = newKinds qs ++ ["Currency".toList, "Permission".toList, "Effect".toList] ∧
    (r.entries.map (·.kind)).Nodup ∧
    (∀ i e, r.custom[i]? = some e → e.order = i ∧
      ∃ q, qs.find? (fun q => q.isSound && q.kind.name == e.kind) = some q ∧ q.entry i = .ok e) ∧
    (∀ e ∈ r.entries, e.label.flaw? = none ∧ e.label.opening = .ok e.opening ∧
      ∃ q : Registration, q.reader.orElse (q.kind.ofBody.orElse q.kind.read) = .given e.reader ∧
        q.label.orElse q.kind.label = .given e.label ∧ q.entry e.order = .ok e) ∧
    (∀ later, r.custom <+: (r.registerAll later).custom) ∧
    (∀ q, ((r.serve q).1.isOk ↔ q.isSound ∨ q.kind.name ∈ r.entries.map (·.kind)) ∧
      (∀ f, (r.serve q).1 = .error f → (r.serve q).2 = r) ∧
      ∀ e ∈ r.entries, e.kind = q.kind.name → r.serve q = (.ok e, r)) := by
  intro r
  have h : Holds r qs := holds_registerAll qs
  refine ⟨?_, h.nodup, fun i e hi => ?_, fun e he => ?_, custom_prefix_registerAll r,
    fun q => ⟨isOk_serve_iff, fun f hf => serve_of_error hf, fun e he hk => ?_⟩⟩
  · unfold entries
    rw [List.map_append, h.kinds]
    rfl
  · obtain ⟨q, hf, hq⟩ := h.made i e hi
    exact ⟨(Registration.fields_of_entry hq).2, q, hf, hq⟩
  · have hq : ∃ q : Registration, q.entry e.order = .ok e := by
      obtain he | he := List.mem_append.1 he
      · obtain ⟨i, hi⟩ := List.mem_iff_getElem?.1 he
        obtain ⟨q, -, hq⟩ := h.made i e hi
        exact ⟨q, (Registration.fields_of_entry hq).2 ▸ hq⟩
      · exact exists_entry_of_mem_core he
    obtain ⟨q, hq⟩ := hq
    obtain ⟨hr, hl, ho⟩ := Registration.parts_of_entry hq
    exact ⟨Label.flaw?_of_opening ho, ho, q, hr, hl, hq⟩
  · apply serve_of_mem
    rw [← hk]
    exact entry?_of_mem h.nodup he

-- The first call for `Point` has no use for its symbol, and `Currency` is built in.
example :
    let kind (name : Text) : Kind := ⟨name, .missing, .missing, .given .group⟩
    let label (symbol : Text) : Slot Label := .given ⟨some "p(oint)".toList, some symbol⟩
    newKinds [⟨kind "Point".toList, label "(".toList, .missing⟩,
      ⟨kind "Badge".toList, label "!".toList, .missing⟩,
      ⟨kind "Currency".toList, label "?".toList, .missing⟩,
      ⟨kind "Point".toList, label "?".toList, .missing⟩,
      ⟨kind "Badge".toList, .unusable, .missing⟩] = ["Badge".toList, "Point".toList] := by
  decide +kernel

end Registry

end Rewards
