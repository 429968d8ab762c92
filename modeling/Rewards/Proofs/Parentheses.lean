import Rewards.Proofs.Canonical

/-!
The parentheses of what is accepted. If only spaces stand between the commas and the groups of a text,
what it stands for has the parentheses of the text, whether it can be written or not.
-/

namespace Rewards

open Text Token

theorem Token.Spaced.part {s t : Text} (h : Spaced t) (hi : s <:+: t) : Spaced s := by
  obtain ⟨l, r, rfl⟩ := hi
  rw [List.append_assoc] at h
  exact h.stretch

theorem Leaf.parens_eq_of_same {l l' : Leaf} (h : l.same l' = true) : l.parens = l'.parens := by
  cases l <;> cases l'
  case permission.permission node node' =>
    rw [eq_of_beq h]
  all_goals first | rfl | cases h

namespace Grantable

mutual

/-- The parentheses that a grantable is written with. -/
def parens : Grantable → Text
  | leaf l => l.parens
  | group gs => '(' :: (parensAll gs ++ [')'])

def parensAll : List Grantable → Text
  | [] => []
  | g :: gs => parens g ++ parensAll gs

end

mutual

/-- Equal grantables have the same parentheses. -/
theorem parens_eq_of_same : ∀ g g' : Grantable, same g g' = true → parens g = parens g'
  | leaf _, leaf _, h => Leaf.parens_eq_of_same h
  | group gs, group gs', h => by rw [parens, parens, parensAll_eq_of_same gs gs' h]
  | leaf _, group _, h => by cases h
  | group _, leaf _, h => by cases h

theorem parensAll_eq_of_same : ∀ gs gs' : List Grantable, sameAll gs gs' = true →
    parensAll gs = parensAll gs'
  | [], [], _ => rfl
  | g :: gs, g' :: gs', h => by
    rw [sameAll, Bool.and_eq_true] at h
    rw [parensAll, parensAll, parens_eq_of_same g g' h.1, parensAll_eq_of_same gs gs' h.2]
  | [], _ :: _, h => by cases h
  | _ :: _, [], h => by cases h

end

variable {shared : Registry}

theorem parensAll_of_each {ts : List Text} {gs : List Grantable}
    (h : Outcome.each (dispatch shared .empty) ts = .ok gs)
    (hp : ∀ t ∈ ts, ∀ g, dispatch shared .empty t = .ok g → parens g = Token.parens t) :
    parensAll gs = (ts.map Token.parens).flatten := by
  induction ts generalizing gs with
  | nil =>
    cases h
    rfl
  | cons t ts ih =>
    obtain ⟨g, gs, hg, hgs, rfl⟩ := Outcome.each_cons_eq_ok_iff.1 h
    obtain ⟨hpt, hpts⟩ := List.forall_mem_cons.1 hp
    rw [parensAll, hpt g hg, ih hgs hpts, List.map_cons, List.flatten_cons]

/-- One token of a spaced text, given the parentheses of shorter texts. -/
theorem parens_of_dispatch {t : Text} {g : Grantable} (h : dispatch shared .empty t = .ok g)
    (ht : Clear t) (htrim : Trimmed t) (ih : ∀ b gs, b.length < t.length → Spaced b →
      dispatchAll shared .empty b = .ok gs → parensAll gs = Token.parens b) :
    parens g = Token.parens t := by
  obtain ⟨b, rfl, -, hs⟩ | hhead := ht
  · rw [dispatch_parenthesized] at h
    obtain ⟨gs, hgs, rfl⟩ := Outcome.map_eq_ok_iff.1 h
    rw [parens, ih b gs (by simp) hs hgs, parens_parenthesized]
  · obtain ⟨l, hl, rfl, -⟩ | ⟨_, _, _, hopen⟩ := dispatch_cases h
    · rw [parens, (Leaf.ofToken_cases hl).2, parens_trim]
    · rw [trim_of_trimmed htrim] at hopen
      exact absurd hopen hhead

/-- Where only spaces stand between commas and groups, no parenthesis is lost. -/
theorem parensAll_of_dispatchAll {text : Text} {gs : List Grantable}
    (h : dispatchAll shared .empty text = .ok gs) (hs : Spaced text) :
    parensAll gs = Token.parens text := by
  -- On the length of the text, since what stands inside parentheses is a shorter text.
  induction hn : text.length using Nat.strong_induction_on generalizing text gs with
  | _ n ih =>
    obtain ⟨ts, hts, heach⟩ := tokens_of_dispatchAll h
    rw [← parens_tokens hts]
    refine parensAll_of_each heach fun t ht g hg => ?_
    have hlen := tokens_length hts t ht
    refine parens_of_dispatch hg (clear_of_mem_tokens hts hs t ht)
      (trimmed_of_mem_split hts t ht).2 fun b gs hb hsb hgs => ?_
    exact ih b.length (by omega) hgs hsb rfl

end Grantable

end Rewards
