import Rewards.Proofs.Dispatch.Single
import Rewards.Proofs.Registry.Extension

/-!
Reading a token as one of a given kind. The look-up by kind finds the entry that claims the token,
so the kind is read from the same body as in dispatch. Items and groups have no opening of their
own: even where one has been registered for them, they are read from the whole token.
-/

namespace Rewards.Registry

open Text Token

section Entry

variable {r shared : Registry} {k : Kind} {e : Entry} {t : Text}

theorem trimFor_of_kind (h : r.entry? k.name = some e) (t : Text) :
    r.trimFor k t = .ok (e.opening.strip t) := by
  rw [trimFor, h]

theorem readAs_of_kind (hg : k.name ≠ Kind.group.name) (hi : k.name ≠ Kind.item.name)
    (h : r.entry? k.name = some e) (t : Text) :
    r.readAs shared k t = e.reader.run shared (e.opening.strip (trim t)) := by
  rw [readAs, if_neg hg, if_neg hi, h]
  rfl

theorem readAs_group (hk : k.name = Kind.group.name) (t : Text) :
    r.readAs shared k t = readGroup shared r t := by
  rw [readAs, if_pos hk]

theorem readAs_item (hk : k.name = Kind.item.name) (t : Text) :
    r.readAs shared k t = (Item.read (some t)).map (.leaf ∘ .item) := by
  rw [readAs, if_neg (by rw [hk]; decide), if_pos hk]

end Entry

section Claimed

variable {qs : List Registration} {t : Text} {e : Entry}

/-- Every kind is installed once. -/
theorem kind_of_find? (h : (empty.registerAll qs).find? t = some e) :
    entry? (empty.registerAll qs) e.kind = some e :=
  entry?_of_mem (holds_registerAll qs).nodup (List.mem_of_find?_eq_some h)

theorem body?_of_find? {r : Registry} (h : r.find? t = some e) :
    e.opening.body? t = some (e.opening.strip t) := by
  have hclaims : e.opening.claims t = true := by simpa using List.find?_some h
  obtain ⟨b, hb⟩ := Option.isSome_iff_exists.1 hclaims
  rw [Opening.strip, hb, Option.getD_some]

/-- No kind claims a token in parentheses. -/
theorem head?_of_find? (h : (empty.registerAll qs).find? t = some e) : t.head? ≠ some '(' := by
  obtain ⟨-, k, hk, he⟩ := Opening.opens_of_body? (body?_of_find? h)
  obtain ⟨hne, -, hparen⟩ := opens_cases (List.mem_of_find?_eq_some h) hk
  rw [he, List.head?_append_of_ne_nil _ hne]
  intro hhead
  exact absurd (hparen _ (List.mem_of_mem_head? hhead)) (by decide)

theorem ne_nil_of_find? {r : Registry} (h : r.find? t = some e) : t ≠ [] := by
  rintro rfl
  have := strip_length h
  simp at this

theorem dispatch_of_find? (shared : Registry)
    (h : (empty.registerAll qs).find? (trim t) = some e) :
    dispatch shared (empty.registerAll qs) t =
      e.reader.run shared (e.opening.strip (trim t)) :=
  dispatch_claimed (ne_nil_of_find? h) (head?_of_find? h) h

end Claimed

/-- After any run of registrations, what is left of a token without the opening of the kind that
claims it is the body from which dispatch reads the token. To read the token as one of that kind
comes to the same as dispatch, if the kind is neither item nor group: these are read from the whole
token. -/
theorem directed_reading (qs : List Registration) (shared : Registry) {t : Text} {e : Entry}
    (h : (empty.registerAll qs).find? (trim t) = some e) :
    let r := empty.registerAll qs
    (∃ b, e.opening.body? (trim t) = some b ∧ dispatch shared r t = e.reader.run shared b ∧
      ∀ k : Kind, k.name = e.kind → r.trimFor k (trim t) = .ok b) ∧
    (∀ k : Kind, k.name = e.kind → k.name ≠ Kind.item.name → k.name ≠ Kind.group.name →
      r.readAs shared k t = dispatch shared r t) ∧
    (∀ k : Kind, k.name = Kind.item.name →
      r.readAs shared k t = (Item.read (some t)).map (.leaf ∘ .item)) ∧
    ∀ k : Kind, k.name = Kind.group.name → r.readAs shared k t = readGroup shared r t := by
  intro r
  have hentry : r.entry? e.kind = some e := kind_of_find? h
  have hdispatch : dispatch shared r t = e.reader.run shared (e.opening.strip (trim t)) :=
    dispatch_of_find? shared h
  refine ⟨⟨_, body?_of_find? h, hdispatch, fun k hk => ?_⟩, fun k hk hi hg => ?_,
    fun k hk => readAs_item hk t, fun k hk => readAs_group hk t⟩
  · apply trimFor_of_kind
    rw [hk, hentry]
  · rw [hdispatch]
    apply readAs_of_kind hg hi
    rw [hk, hentry]

/-- A gem between blanks is one for dispatch, and as a gem. -/
theorem gem_directed :
    let r := empty.registerAll [gem]
    r.find? (trim " gems:3 ") = some gemEntry ∧
      r.trimFor gem.kind (trim " gems:3 ") = .ok "3".toList ∧
      r.readAs empty gem.kind " gems:3 " = dispatch empty r " gems:3 " ∧
      dispatch empty r " gems:3 " = .ok (.leaf (.custom ⟨"Gem", "given", "3"⟩)) := by
  intro r
  have hn : empty.entry? gem.kind.name = none := by decide +kernel
  have hr : r = empty.extend gemEntry := serve_new hn serve_gem
  have hfind : r.find? (trim " gems:3 ") = some gemEntry := by
    rw [hr]
    exact find?_extend_of_claims (List.forall_mem_nil _) (by decide +kernel)
  obtain ⟨⟨b, hb, hd, htrim⟩, hread, -⟩ := directed_reading [gem] empty hfind
  have hbody : gemEntry.opening.body? (trim " gems:3 ") = some "3".toList := by decide +kernel
  obtain rfl : "3".toList = b := Option.some.inj (hbody.symm.trans hb)
  exact ⟨hfind, htrim gem.kind rfl, hread gem.kind rfl (by decide) (by decide), hd⟩

/-- Items with a keyword of their own. -/
def labelledItem : Registration where
  kind := .item
  label := .given ⟨some "it(em)".toList, none⟩
  reader := .missing

def labelledItemEntry : Entry where
  kind := "Item"
  label := ⟨some "it(em)".toList, none⟩
  opening := ⟨.letter 'i' (.letter 't' (.optional (.letter 'e' (.letter 'm' .done)) .done)), none⟩
  reader := Kind.single .item fun t => Item.read (some t)
  order := 0

/-- Dispatch reads the item behind the keyword, and as an item the token keeps the keyword. -/
theorem item_keeps_keyword :
    let r := empty.registerAll [labelledItem]
    r.find? (trim "it:dirt") = some labelledItemEntry ∧
      r.trimFor .item (trim "it:dirt") = .ok "dirt".toList ∧
      dispatch empty r "it:dirt" = .ok (.leaf (.item ⟨⟨3, "DIRT"⟩, 1, 0, []⟩)) ∧
      r.readAs empty .item "it:dirt" = .error (.refused (.value (.notA .itemName "it"))) := by
  intro r
  have ho : labelledItemEntry.label.opening = .ok labelledItemEntry.opening := by decide +kernel
  have he : labelledItem.entry empty.custom.length = .ok labelledItemEntry :=
    Entry.ofKind_eq_ok_iff.2 ⟨_, _, _, rfl, rfl, ho, rfl⟩
  have hn : empty.entry? labelledItem.kind.name = none := by decide +kernel
  have hr : r = empty.extend labelledItemEntry := congrArg Prod.snd (serve_of_entry hn he)
  have hfind : r.find? (trim "it:dirt") = some labelledItemEntry := by
    rw [hr]
    exact find?_extend_of_claims (List.forall_mem_nil _) (by decide +kernel)
  have hbody : labelledItemEntry.opening.strip (trim "it:dirt") = "dirt".toList := by
    decide +kernel
  have hdirt : Item.read (some "dirt".toList) = .ok ⟨⟨3, "DIRT"⟩, 1, 0, []⟩ := by decide +kernel
  have hwhole : Item.read (some "it:dirt".toList) =
      .error (.refused (.value (.notA .itemName "it"))) := by decide +kernel
  refine ⟨hfind, ?_, ?_, ?_⟩
  · rw [trimFor_of_kind (kind_of_find? hfind), hbody]
  · rw [dispatch_of_find? empty hfind, hbody]
    change (Item.read (some "dirt".toList)).map (fun i => Grantable.leaf (.item i)) = _
    rw [hdirt]
    rfl
  · rw [readAs_item rfl, hwhole]
    rfl

end Rewards.Registry
