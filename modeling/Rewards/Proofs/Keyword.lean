import Rewards.Label

/-!
Keyword expressions and the texts that write them. A label without a flaw has a keyword that can be
read, and there is one way to read it.
-/

namespace Rewards.Keyword

/-- The characters outside parentheses and inside them. -/
def letters : Keyword → Text
  | done => []
  | letter c k => c :: letters k
  | optional inner k => letters inner ++ letters k

/-- No letter is a parenthesis. -/
def Plain (k : Keyword) : Prop := ∀ c ∈ k.letters, c ≠ '(' ∧ c ≠ ')'

section Letters

variable {k inner : Keyword} {c : Char}

theorem plain_letter : Plain (letter c k) ↔ (c ≠ '(' ∧ c ≠ ')') ∧ Plain k :=
  List.forall_mem_cons

theorem plain_optional : Plain (optional inner k) ↔ Plain inner ∧ Plain k :=
  List.forall_mem_append

theorem mem_toText_of_mem_letters (h : c ∈ k.letters) : c ∈ k.toText := by
  induction k with
  | done => exact h
  | letter d k ih =>
    obtain rfl | h := List.mem_cons.1 h
    · exact List.mem_cons_self
    · exact List.mem_cons_of_mem d (ih h)
  | optional inner k ihi ihk =>
    rw [toText, List.cons_append]
    obtain h | h := List.mem_append.1 h
    · exact List.mem_cons_of_mem _ (List.mem_append_left _ (ihi h))
    · exact List.mem_cons_of_mem _ (List.mem_append_right _ (List.mem_cons_of_mem _ (ihk h)))

theorem mem_letters_of_mem_spellings {w : Text} (hw : w ∈ k.spellings) (h : c ∈ w) :
    c ∈ k.letters := by
  induction k generalizing w with
  | done =>
    obtain rfl := List.mem_singleton.1 hw
    exact h
  | letter d k ih =>
    obtain ⟨v, hv, rfl⟩ := List.mem_map.1 hw
    obtain rfl | h := List.mem_cons.1 h
    · exact List.mem_cons_self
    · exact List.mem_cons_of_mem d (ih hv h)
  | optional inner k ihi ihk =>
    obtain ⟨a, ha, hw⟩ := List.mem_flatMap.1 hw
    obtain ⟨b, hb, rfl⟩ := List.mem_map.1 hw
    obtain h | h := List.mem_append.1 h
    · obtain rfl | ha := List.mem_cons.1 ha
      · cases h
      · exact List.mem_append_left _ (ihi ha h)
    · exact List.mem_append_right _ (ihk hb h)

end Letters

/-- The expressions that a text writes, with a `)` before each of them but the first. -/
def writeOpen (k : Keyword) (outer : List Keyword) : Text :=
  k.toText ++ outer.flatMap fun k => ')' :: k.toText

theorem readOpen_eq_some {s : Text} {k : Keyword} {outer : List Keyword}
    (h : readOpen s = some (k, outer)) :
    s = writeOpen k outer ∧ Plain k ∧ ∀ k' ∈ outer, Plain k' := by
  induction s generalizing k outer with
  | nil =>
    cases h
    exact ⟨rfl, by simp [Plain, letters], by simp⟩
  | cons c s ih =>
    rw [readOpen, Option.bind_eq_bind, Option.bind_eq_some_iff] at h
    obtain ⟨⟨j, up⟩, hj, h⟩ := h
    dsimp only at h
    obtain ⟨rfl, hp, hup⟩ := ih hj
    by_cases hclose : c = ')'
    · rw [if_pos hclose] at h
      cases h
      exact ⟨by simp [writeOpen, toText, hclose], by simp [Plain, letters], by simpa using ⟨hp, hup⟩⟩
    · rw [if_neg hclose] at h
      by_cases hopen : c = '('
      · rw [if_pos hopen] at h
        cases up with
        | nil => cases h
        | cons rest up =>
          cases h
          obtain ⟨hrest, hup⟩ := List.forall_mem_cons.1 hup
          exact ⟨by simp [writeOpen, toText, hopen], plain_optional.2 ⟨hp, hrest⟩, hup⟩
      · rw [if_neg hopen] at h
        cases h
        exact ⟨rfl, plain_letter.2 ⟨⟨hopen, hclose⟩, hp⟩, hup⟩

/-- One expression behind the other. -/
def append : Keyword → Keyword → Keyword
  | done, k => k
  | letter c j, k => letter c (append j k)
  | optional inner j, k => optional inner (append j k)

theorem append_done (k : Keyword) : k.append done = k := by
  induction k with
  | done => rfl
  | letter c k ih => rw [append, ih]
  | optional inner k _ ih => rw [append, ih]

theorem readOpen_toText_append {k : Keyword} (hk : Plain k) (s : Text) :
    readOpen (k.toText ++ s) = (readOpen s).map fun r => (k.append r.1, r.2) := by
  induction k generalizing s with
  | done => simp [toText, append]
  | letter c k ih =>
    obtain ⟨⟨hopen, hclose⟩, hk⟩ := plain_letter.1 hk
    rw [toText, List.cons_append, readOpen, ih hk]
    cases readOpen s with
    | none => rfl
    | some r => simp [hopen, hclose, append]
  | optional inner k ihi ihk =>
    obtain ⟨hi, hk⟩ := plain_optional.1 hk
    rw [toText, List.cons_append, List.cons_append, List.append_assoc, List.cons_append, readOpen,
      ihi hi, readOpen, ihk hk]
    cases readOpen s with
    | none => rfl
    | some r => simp [append, append_done]

theorem ofText?_toText {k : Keyword} (hk : Plain k) : ofText? k.toText = some k := by
  have h := readOpen_toText_append hk []
  rw [List.append_nil] at h
  rw [ofText?, h]
  simp [readOpen, append_done]

theorem ofText?_eq_some_iff {s : Text} {k : Keyword} :
    ofText? s = some k ↔ k.toText = s ∧ Plain k := by
  constructor
  · intro h
    rw [ofText?] at h
    split at h
    · rename_i hs
      cases h
      obtain ⟨rfl, hp, -⟩ := readOpen_eq_some hs
      exact ⟨by simp [writeOpen], hp⟩
    · cases h
  · rintro ⟨rfl, hk⟩
    exact ofText?_toText hk

theorem unpaired_cons (whole : Text) (i : Nat) (opened : List Nat) (c : Char) (s : Text) :
    Label.unpaired whole i opened (c :: s) =
      if c = '(' then Label.unpaired whole (i + 1) (i :: opened) s
      else if c = ')' then
        match opened with
        | [] => some (.strayClose i whole)
        | _ :: opened => Label.unpaired whole (i + 1) opened s
      else Label.unpaired whole (i + 1) opened s := by
  cases opened <;> rfl

/-- Where `unpaired` has nothing to report, each `)` without a partner closes what has been open. -/
theorem readOpen_of_unpaired {whole s : Text} {i : Nat} {opened : List Nat}
    (h : Label.unpaired whole i opened s = none) :
    ∃ k outer, readOpen s = some (k, outer) ∧ outer.length = opened.length := by
  induction s generalizing i opened with
  | nil =>
    cases opened with
    | nil => exact ⟨done, [], rfl, rfl⟩
    | cons p opened => cases h
  | cons c s ih =>
    rw [unpaired_cons] at h
    split at h
    · rename_i hc
      obtain ⟨k, outer, hs, hl⟩ := ih h
      obtain ⟨rest, outer, rfl⟩ := List.exists_cons_of_length_eq_add_one hl
      exact ⟨optional k rest, outer, by simp [readOpen, hs, hc], by simpa using hl⟩
    · rename_i hopen
      split at h
      · rename_i hc
        cases opened with
        | nil => cases h
        | cons p opened =>
          obtain ⟨k, outer, hs, hl⟩ := ih h
          exact ⟨done, k :: outer, by simp [readOpen, hs, hc], by simpa using hl⟩
      · rename_i hclose
        obtain ⟨k, outer, hs, hl⟩ := ih h
        exact ⟨letter c k, outer, by simp [readOpen, hs, hopen, hclose], hl⟩

theorem exists_of_unpaired {s : Text} (h : Label.unpaired s 0 [] s = none) :
    ∃ k, ofText? s = some k := by
  obtain ⟨k, outer, hs, hl⟩ := readOpen_of_unpaired h
  obtain rfl := List.length_eq_zero_iff.1 hl
  exact ⟨k, by rw [ofText?, hs]⟩

end Rewards.Keyword
