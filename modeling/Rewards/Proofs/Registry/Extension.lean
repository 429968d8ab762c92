import Rewards.Custom
import Rewards.Proofs.Dispatch.Outside
import Rewards.Proofs.Registry

/-!
Registering a kind is conservative. The new entry gets the tokens that it claims and that no earlier
kind of a client does, also where a built-in kind had them. Every other token is read as before, and
so is every text without a token of the new kind, at any depth.
-/

namespace Rewards.Registry

open Text

/-- The registry with one more kind of a client, behind the others. -/
def extend (r : Registry) (e : Entry) : Registry := ⟨r.custom ++ [e]⟩

/-- No reader of a client consults a registry. -/
def ReadsAlone (r : Registry) : Prop := ∀ e ∈ r.custom, ∃ read, e.reader = .own read

variable {r : Registry} {e : Entry}

theorem serve_of_entry {q : Registration} (hn : r.entry? q.kind.name = none)
    (he : q.entry r.custom.length = .ok e) : r.serve q = (.ok e, r.extend e) := by
  rw [serve_of_not_mem hn, he]
  rfl

theorem serve_new {q : Registration} (hn : r.entry? q.kind.name = none)
    (he : (r.serve q).1 = .ok e) : (r.serve q).2 = r.extend e := by
  rw [serve_of_not_mem hn] at he ⊢
  cases hq : q.entry r.custom.length with
  | error f =>
    rw [hq] at he
    cases he
  | ok e' =>
    rw [hq] at he
    obtain rfl : e' = e := Except.ok.inj he
    rfl

theorem registerAll_concat (r : Registry) (qs : List Registration) (q : Registration) :
    r.registerAll (qs ++ [q]) = ((r.registerAll qs).serve q).2 := by
  unfold registerAll
  rw [List.foldl_append]
  rfl

/-- The kinds of clients are asked first. -/
theorem find?_eq_or (r : Registry) (t : Text) :
    r.find? t = (r.custom.find? (·.opening.claims t)).or (core.find? (·.opening.claims t)) :=
  List.find?_append

theorem find?_extend (r : Registry) (e : Entry) (t : Text) :
    (r.extend e).find? t = (r.custom.find? (·.opening.claims t)).or
      ((if e.opening.claims t then some e else none).or (core.find? (·.opening.claims t))) := by
  rw [find?_eq_or, extend, List.find?_append, List.find?_singleton, Option.or_assoc]

theorem find?_extend_of_claimed {t : Text} (h : ∃ c ∈ r.custom, c.opening.claims t) :
    (r.extend e).find? t = r.find? t := by
  obtain ⟨c, hc⟩ := Option.isSome_iff_exists.1 (List.find?_isSome.2 h)
  rw [find?_extend, find?_eq_or, hc, Option.some_or, Option.some_or]

theorem find?_extend_of_claims {t : Text} (h : ∀ c ∈ r.custom, ¬c.opening.claims t)
    (he : e.opening.claims t) : (r.extend e).find? t = some e := by
  rw [find?_extend, List.find?_eq_none.2 h, if_pos he, Option.none_or, Option.some_or]

theorem find?_extend_of_not_claims {t : Text} (h : ¬e.opening.claims t) :
    (r.extend e).find? t = r.find? t := by
  rw [find?_extend, find?_eq_or, if_neg h, Option.none_or]

theorem reads_of_mem_core (he : e ∈ core) : ∃ read, e.reader = .own read := by
  simp only [core, List.mem_cons, List.not_mem_nil, or_false] at he
  obtain rfl | rfl | rfl := he
  · exact ⟨_, rfl⟩
  · exact ⟨_, rfl⟩
  · exact ⟨_, rfl⟩

theorem ReadsAlone.reads_of_find? (h : r.ReadsAlone) {t : Text} (he : r.find? t = some e) :
    ∃ read, e.reader = .own read := by
  obtain hm | hm := List.mem_append.1 (List.mem_of_find?_eq_some he)
  · exact h e hm
  · exact reads_of_mem_core hm

/-- The registry that all clients share may grow along where no reader consults it. -/
theorem readOutside_extend {shared shared' : Registry} (hs : shared' = shared ∨ r.ReadsAlone)
    {t : Text} (h : ¬e.opening.claims t) :
    readOutside shared' (r.extend e) t = readOutside shared r t := by
  have hf' := find?_extend_of_not_claims (r := r) h
  cases hf : r.find? t with
  | none =>
    rw [hf] at hf'
    rw [readOutside_unclaimed shared' hf', readOutside_unclaimed shared hf]
  | some c =>
    rw [hf] at hf'
    rw [readOutside_claimed shared' hf', readOutside_claimed shared hf]
    obtain rfl | ha := hs
    · rfl
    · obtain ⟨read, hr⟩ := ha.reads_of_find? hf
      rw [hr]
      rfl

/-- After any run of registrations, a kind that is registered anew leaves a token with the kind of a
client that claims it already, gets the other tokens that it claims, and leaves the rest with whatever
had them. A text of which it claims no token outside parentheses is read as before, with the same
failure if it has one; and so it is by the registry that all clients share, where no reader of a
client consults that. -/
theorem registration_conservative (qs : List Registration) (q : Registration) (e : Entry)
    (hn : entry? (empty.registerAll qs) q.kind.name = none)
    (he : ((empty.registerAll qs).serve q).1 = .ok e) :
    let r := empty.registerAll qs
    let r' := empty.registerAll (qs ++ [q])
    (∀ t, (∃ c ∈ r.custom, c.opening.claims t) → r'.find? t = r.find? t) ∧
    (∀ t, (∀ c ∈ r.custom, ¬c.opening.claims t) → e.opening.claims t → r'.find? t = some e) ∧
    (∀ t, ¬e.opening.claims t → r'.find? t = r.find? t) ∧
    ∀ text, (∀ t ∈ leafTokens text, ¬e.opening.claims t) →
      ∀ shared shared', shared' = shared ∨ r.ReadsAlone →
        dispatchAll shared' r' text = dispatchAll shared r text := by
  intro r r'
  have hr : r' = r.extend e := (registerAll_concat empty qs q).trans (serve_new hn he)
  rw [hr]
  refine ⟨fun t h => find?_extend_of_claimed h, fun t h hc => find?_extend_of_claims h hc,
    fun t h => find?_extend_of_not_claims h, ?_⟩
  intro text htext shared shared' hs
  apply dispatchAll_congr
  intro t ht
  exact readOutside_extend hs (htext t ht)

/-- Gems are written `%3`, `gem:3` or `gems:3`. -/
def gem : Registration where
  kind := ⟨"Gem", .missing, .missing, .missing⟩
  label := .given ⟨some "gem(s)".toList, some "%".toList⟩
  reader := .given (BodyRule.digits.reader "Gem" "given")

def gemEntry : Entry where
  kind := "Gem"
  label := ⟨some "gem(s)".toList, some "%".toList⟩
  opening := ⟨.letter 'g' (.letter 'e' (.letter 'm' (.optional (.letter 's' .done) .done))), some '%'⟩
  reader := BodyRule.digits.reader "Gem" "given"
  order := 0

theorem serve_gem : (empty.serve gem).1 = .ok gemEntry := by
  have ho : gemEntry.label.opening = .ok gemEntry.opening := by decide +kernel
  have he : gem.entry empty.custom.length = .ok gemEntry :=
    Entry.ofKind_eq_ok_iff.2 ⟨_, _, _, rfl, rfl, ho, rfl⟩
  have hn : empty.entry? gem.kind.name = none := by decide +kernel
  exact congrArg Prod.fst (serve_of_entry hn he)

/-- Gems take `%3` from no kind, and leave a permission that looks like one inside a group alone. -/
theorem gem_conservative :
    empty.entry? gem.kind.name = none ∧ (empty.serve gem).1 = .ok gemEntry ∧
      (empty.registerAll [gem]).find? "%3" = some gemEntry ∧ empty.find? "%3" = none ∧
      (∀ t ∈ leafTokens "dirt, (#%3)", ¬gemEntry.opening.claims t) ∧
      ∀ shared, dispatchAll shared (empty.registerAll [gem]) "dirt, (#%3)" =
        dispatchAll shared empty "dirt, (#%3)" := by
  have hn : empty.entry? gem.kind.name = none := by decide +kernel
  have hleaf : ∀ t ∈ leafTokens "dirt, (#%3)", ¬gemEntry.opening.claims t := by
    have h1 : tokens "dirt, (#%3)" = .ok ["dirt".toList, "(#%3)".toList] := by decide +kernel
    have h2 : tokens "#%3" = .ok ["#%3".toList] := by decide +kernel
    have hg : ungrouped (trim "(#%3)".toList) = "#%3".toList := by decide
    rw [leafTokens_of_tokens h1, List.flatMap_cons, List.flatMap_cons, List.flatMap_nil,
      leavesOfToken, if_neg (by decide), leavesOfToken, if_pos (by decide), hg,
      leafTokens_of_tokens h2]
    decide +kernel
  obtain ⟨-, hnew, -, htext⟩ := registration_conservative [] gem gemEntry hn serve_gem
  refine ⟨hn, serve_gem, hnew _ (List.forall_mem_nil _) (by decide +kernel), by decide +kernel,
    hleaf, fun shared => ?_⟩
  exact htext _ hleaf shared shared (.inl rfl)

end Rewards.Registry
