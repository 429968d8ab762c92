import Rewards.Proofs.Claimed
import Rewards.Proofs.Prefix

/-!
The built-in kinds do not compete for tokens. No opening of one starts with an opening of another,
and what one of them claims is no item. So dispatch may try the kinds in any order, items included.
-/

namespace Rewards

open Text

namespace Opening

/-- No opening of a built-in kind starts with another one. -/
theorem openings_prefix_free : ∀ o ∈ builtIn, ∀ o' ∈ builtIn, ∀ p ∈ o.openings,
    ∀ p' ∈ o'.openings, p <+: p' ∨ p' <+: p → o = o' := by
  decide +kernel

theorem claims_unique {o o' : Opening} (ho : o ∈ builtIn) (ho' : o' ∈ builtIn) {t : Text}
    (h : o.claims t = true) (h' : o'.claims t = true) : o = o' := by
  obtain ⟨b, hb⟩ := Option.isSome_iff_exists.1 h
  obtain ⟨b', hb'⟩ := Option.isSome_iff_exists.1 h'
  obtain ⟨-, p, hp, rfl⟩ := opens_of_body? hb
  obtain ⟨-, p', hp', he⟩ := opens_of_body? hb'
  have hpre : p' <+: p ++ b := he ▸ List.prefix_append p' b'
  exact openings_prefix_free o ho o' ho' p (mem_openings_iff.2 hp) p' (mem_openings_iff.2 hp')
    (List.prefix_or_prefix_of_prefix (List.prefix_append p b) hpre)

end Opening

namespace Item

theorem readMaterial_of_material? {m : Text} (h : Catalog.material? m = .ok none) :
    ∃ v, readMaterial m = .error (.refused (.value v)) := by
  unfold readMaterial
  rw [h]
  exact ⟨_, rfl⟩

theorem readBase_of_material? {t : Text} (h : Catalog.material? (cut ':' t).1 = .ok none) :
    ∃ v, readBase t = .error (.refused (.value v)) := by
  obtain ⟨ps, hp⟩ := exists_pieces ':' t
  obtain ⟨v, hv⟩ := readMaterial_of_material? h
  unfold readBase
  rw [hp]
  match ps with
  | [] | [_] | [_, _] =>
    simp only [hv]
    exact ⟨v, rfl⟩
  | _ :: _ :: _ :: _ => exact ⟨_, rfl⟩

/-- What has no material in its place is refused as an item. -/
theorem ofToken_of_material? {t : Text} (h : Catalog.material? (leading t) = .ok none) :
    ∃ v, ofToken t = .error (.refused (.value v)) := by
  obtain ⟨v, hv⟩ := readBase_of_material? h
  unfold ofToken
  simp only [hv]
  exact ⟨v, rfl⟩

theorem read_of_claims {o : Opening} (ho : o ∈ Opening.builtIn) {t : Text}
    (h : o.claims (trim t) = true) :
    ∃ v, read (some t) = .error (.refused (.value v)) := by
  obtain ⟨b, hb⟩ := Option.isSome_iff_exists.1 h
  have hne : ¬(trim t).isEmpty = true := by
    rw [List.isEmpty_iff]
    rintro hnil
    rw [hnil] at hb
    cases hb
  rw [read, Option.getD_some, if_neg hne]
  exact ofToken_of_material? (material?_leading_of_body? ho hb)

end Item

/-- The kinds that are built in. -/
inductive BuiltIn where
  | currency
  | permission
  | effect
  | item
  deriving DecidableEq, Repr

namespace BuiltIn

/-- In the order in which they are tried. -/
def all : List BuiltIn := [currency, permission, effect, item]

def opening? : BuiltIn → Option Opening
  | currency => some Currency.opening
  | permission => some Permission.opening
  | effect => some Effect.opening
  | item => none

/-- What the kind makes of a token that it takes. Items take what can be read as one, and what
breaks their reader; the other kinds take what they claim. -/
def take? (t : Text) : BuiltIn → Option (Except Failure Leaf)
  | currency => (Currency.opening.body? t).map fun b => (Currency.ofBody b).map .currency
  | permission => (Permission.opening.body? t).map fun b => (Permission.ofBody b).map .permission
  | effect => (Effect.opening.body? t).map fun b => (Effect.ofBody b).map .effect
  | item => match Item.ofToken t with
    | .ok i => some (.ok (.item i))
    | .error (.refused _) => none
    | .error (.broken f) => some (.error (.broken f))

/-- A token outside parentheses, read by the first kind that takes it. One that no kind takes is
refused as an item. -/
def readFirst (order : List BuiltIn) (t : Text) : Except Failure Leaf :=
  (order.findSome? (take? t)).getD (((Item.ofToken t).map .item).mapError (unknownItem t))

section Take

variable {t : Text} {k k' : BuiltIn} {o : Opening}

theorem mem_builtIn_of_opening? (h : k.opening? = some o) : o ∈ Opening.builtIn := by
  cases k <;> cases h <;> simp [Opening.builtIn]

theorem opening?_injective (h : k.opening? = some o) (h' : k'.opening? = some o) : k = k' := by
  have hall : ∀ k ∈ all, ∀ k' ∈ all, k.opening? = k'.opening? → k = k' := by decide +kernel
  have hmem : ∀ k : BuiltIn, k ∈ all := by
    intro k
    cases k <;> decide
  exact hall k (hmem k) k' (hmem k') (h.trans h'.symm)

theorem claims_of_take? (ho : k.opening? = some o) (h : (take? t k).isSome = true) :
    o.claims t = true := by
  cases k <;> cases ho <;> simpa only [take?, Option.isSome_map, Opening.claims] using h

/-- What a kind claims is not taken for an item. -/
theorem take?_item_of_claims (ho : o ∈ Opening.builtIn) (h : o.claims t = true) :
    take? t item = none := by
  obtain ⟨b, hb⟩ := Option.isSome_iff_exists.1 h
  obtain ⟨v, hv⟩ := Item.ofToken_of_material? (Item.material?_leading_of_body? ho hb)
  rw [take?, hv]

theorem eq_item_of_opening? (h : k.opening? = none) : k = item := by
  cases k with
  | item => rfl
  | currency => cases h
  | permission => cases h
  | effect => cases h

theorem take?_unique (h : (take? t k).isSome = true) (h' : (take? t k').isSome = true) :
    k = k' := by
  cases ho : k.opening? with
  | none =>
    obtain rfl := eq_item_of_opening? ho
    cases ho' : k'.opening? with
    | none => exact (eq_item_of_opening? ho').symm
    | some o' =>
      rw [take?_item_of_claims (mem_builtIn_of_opening? ho') (claims_of_take? ho' h')] at h
      cases h
  | some o =>
    have hc := claims_of_take? ho h
    cases ho' : k'.opening? with
    | none =>
      obtain rfl := eq_item_of_opening? ho'
      rw [take?_item_of_claims (mem_builtIn_of_opening? ho) hc] at h'
      cases h'
    | some o' =>
      have he := Opening.claims_unique (mem_builtIn_of_opening? ho) (mem_builtIn_of_opening? ho') hc
        (claims_of_take? ho' h')
      exact opening?_injective ho (he ▸ ho')

end Take

/-- Where at most one element has a value, the first value is that of any element. -/
theorem findSome?_eq_some_iff_of_unique {α β : Type} {f : α → Option β} {l : List α}
    (hu : ∀ a b, (f a).isSome = true → (f b).isSome = true → a = b) {x : β} :
    l.findSome? f = some x ↔ ∃ a ∈ l, f a = some x := by
  constructor
  · exact List.exists_of_findSome?_eq_some
  · rintro ⟨a, ha, hx⟩
    have hsome : (l.findSome? f).isSome = true :=
      List.findSome?_isSome_iff.2 ⟨a, ha, by rw [hx]; rfl⟩
    obtain ⟨y, hy⟩ := Option.isSome_iff_exists.1 hsome
    obtain ⟨b, -, hb⟩ := List.exists_of_findSome?_eq_some hy
    obtain rfl := hu a b (by rw [hx]; rfl) (by rw [hb]; rfl)
    rw [hy, ← hb, hx]

/-- The order does not matter, since no two kinds take a token. -/
theorem readFirst_perm {order order' : List BuiltIn} (h : order.Perm order') (t : Text) :
    readFirst order t = readFirst order' t := by
  have hfirst : order.findSome? (take? t) = order'.findSome? (take? t) := by
    ext x
    rw [findSome?_eq_some_iff_of_unique fun _ _ => take?_unique,
      findSome?_eq_some_iff_of_unique fun _ _ => take?_unique]
    simp only [h.mem_iff]
  rw [readFirst, readFirst, hfirst]

theorem readFirst_all (t : Text) : readFirst all t = Leaf.ofToken t := by
  simp only [readFirst, all, List.findSome?_cons, List.findSome?_nil, take?]
  rw [Leaf.ofToken]
  cases Currency.opening.body? t with
  | some b => rfl
  | none =>
    cases Permission.opening.body? t with
    | some b => rfl
    | none =>
      cases Effect.opening.body? t with
      | some b => rfl
      | none => rcases Item.ofToken t with (_ | _) | _ <;> rfl

end BuiltIn

mutual

/-- The grantable that a token stands for, where the kinds are tried in a given order. -/
def dispatchIn (order : List BuiltIn) (token : Text) : Except Failure Grantable :=
  if (trim token).isEmpty then .error (.refused (.lack (.token (some token))))
  else if h : (trim token).head? = some '(' then
    have := length_ungrouped_lt h
    (dispatchAllIn order (ungrouped (trim token))).map .group
  else (BuiltIn.readFirst order (trim token)).map .leaf
termination_by 2 * token.length

def dispatchAllIn (order : List BuiltIn) (text : Text) : Except Failure (List Grantable) :=
  match h : tokens text with
  | .error f => .error (.refused (.group f))
  | .ok ts => Outcome.each (fun t =>
      have := tokens_length h t.1 t.2
      dispatchIn order t.1) ts.attach
termination_by 2 * text.length + 1

end

section Order

variable {order : List BuiltIn} (shared : Registry)

theorem dispatchAllIn_eq (order : List BuiltIn) (text : Text) :
    dispatchAllIn order text = match tokens text with
      | .error f => .error (.refused (.group f))
      | .ok ts => Outcome.each (dispatchIn order) ts := by
  rw [dispatchAllIn]
  split
  · rename_i h
    rw [h]
  · rename_i ts h
    refine (Outcome.each_attach (dispatchIn order) ts).trans ?_
    rw [h]

/-- One token, given that shorter texts are read alike. -/
theorem dispatchIn_eq_of {token : Text} (h : order.Perm BuiltIn.all)
    (ih : ∀ text : Text, text.length < token.length →
      dispatchAllIn order text = dispatchAll shared .empty text) :
    dispatchIn order token = dispatch shared .empty token := by
  rw [dispatchIn]
  by_cases hne : trim token = []
  · rw [if_pos (by rw [hne]; rfl), dispatch_blank hne]
  · rw [if_neg (by rwa [List.isEmpty_iff])]
    by_cases hp : (trim token).head? = some '('
    · rw [dif_pos hp, dispatch_group hp, ih _ (length_ungrouped_lt hp)]
    · rw [dif_neg hp, dispatch_leaf hne hp, BuiltIn.readFirst_perm h, BuiltIn.readFirst_all]

theorem dispatchAllIn_eq_dispatchAll (h : order.Perm BuiltIn.all) (text : Text) :
    dispatchAllIn order text = dispatchAll shared .empty text := by
  -- On the length of the text, since what stands inside parentheses is a shorter text.
  induction hn : text.length using Nat.strong_induction_on generalizing text with
  | _ n ih =>
    rw [dispatchAllIn_eq, dispatchAll_eq]
    cases hts : tokens text with
    | error f => rfl
    | ok ts =>
      apply Outcome.each_congr
      intro token ht
      have hlen := tokens_length hts token ht
      apply dispatchIn_eq_of shared h
      intro inner hi
      exact ih inner.length (by omega) inner rfl

theorem dispatchIn_eq_dispatch (h : order.Perm BuiltIn.all) (token : Text) :
    dispatchIn order token = dispatch shared .empty token :=
  dispatchIn_eq_of shared h fun inner _ => dispatchAllIn_eq_dispatchAll shared h inner

end Order

/-- At most one of the built-in openings claims a token, and a claimed token is no item. So without
kinds of clients dispatch has the same outcome in whatever order the four kinds are tried, also
inside groups. -/
theorem built_in_unambiguous (token : Text) :
    (∀ o ∈ Opening.builtIn, ∀ o' ∈ Opening.builtIn, o.claims (trim token) = true →
      o'.claims (trim token) = true → o = o') ∧
    (∀ o ∈ Opening.builtIn, o.claims (trim token) = true → ∀ i, Item.read (some token) ≠ .ok i) ∧
    ∀ order : List BuiltIn, order.Perm BuiltIn.all → ∀ shared,
      dispatchIn order token = dispatch shared .empty token := by
  refine ⟨fun o ho o' ho' h h' => Opening.claims_unique ho ho' h h', fun o ho h i hi => ?_,
    fun order h shared => dispatchIn_eq_dispatch shared h token⟩
  obtain ⟨v, hv⟩ := Item.read_of_claims ho h
  rw [hv] at hi
  cases hi

end Rewards
