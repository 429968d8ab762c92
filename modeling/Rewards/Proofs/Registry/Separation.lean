import Rewards.Cursor
import Rewards.Proofs.Opening
import Rewards.Proofs.Registry.Extension

/-!
Several registries in one process. Each is made by the registrations that it gets itself, and the rest
of a run does not reach it. What it reads can be reached all the same, through a kind whose bodies go
to the reader of groups: that reader is given no registry and asks the one that all clients share.
-/

namespace Rewards

open Text

namespace TokenQueue

variable {shared shared' r r' : Registry}

theorem readNext_congr {α : Type} {read read' : Text → Except Failure α} {q : TokenQueue}
    (h : ∀ t ∈ q.left, read' t = read t) : q.readNext read' = q.readNext read := by
  obtain ⟨ts⟩ := q
  cases ts with
  | nil => rfl
  | cons t ts =>
    change (read' t, TokenQueue.mk ts) = (read t, TokenQueue.mk ts)
    rw [h t List.mem_cons_self]

theorem readRest_congr {α : Type} {read read' : Text → Except Failure α} {q : TokenQueue}
    (h : ∀ t ∈ q.left, read' t = read t) : q.readRest read' = q.readRest read := by
  have hgo : ∀ ts : List Text, (∀ t ∈ ts, read' t = read t) →
      readRest.go read' ts = readRest.go read ts := by
    intro ts hts
    induction ts with
    | nil => rfl
    | cons t ts ih =>
      obtain ⟨ht, hts⟩ := List.forall_mem_cons.1 hts
      rw [readRest.go, readRest.go, ht, ih hts]
  unfold readRest
  rw [hgo q.left h]

theorem readNext_left {α : Type} (read : Text → Except Failure α) (q : TokenQueue) :
    (q.readNext read).2.left ⊆ q.left := by
  obtain ⟨ts⟩ := q
  cases ts with
  | nil => exact List.Subset.refl _
  | cons t ts => exact List.subset_cons_self t ts

theorem readRest_left {α : Type} (read : Text → Except Failure α) (q : TokenQueue) :
    (q.readRest read).2.left ⊆ q.left := by
  have hgo : ∀ ts : List Text, (readRest.go read ts).2 ⊆ ts := by
    intro ts
    induction ts with
    | nil => exact List.Subset.refl _
    | cons t ts ih =>
      rw [readRest.go]
      split
      · exact List.subset_cons_self t ts
      · exact List.Subset.trans ih (List.subset_cons_self t ts)
  exact hgo q.left

theorem reply_left (shared r : Registry) (q : TokenQueue) (a : Ask) :
    (q.reply shared r a).2.left ⊆ q.left := by
  cases a with
  | hasNext => exact List.Subset.refl _
  | next => exact readNext_left _ q
  | rest => exact readRest_left _ q
  | item => exact readNext_left _ q
  | currency => exact readNext_left _ q
  | permission => exact readNext_left _ q
  | effect => exact readNext_left _ q
  | as k => exact readNext_left _ q

theorem reply_congr {q : TokenQueue} {a : Ask}
    (hd : ∀ t ∈ q.left, dispatch shared' r' t = dispatch shared r t)
    (hk : ∀ k, a = .as k → ∀ t ∈ q.left, r'.readAs shared' k t = r.readAs shared k t) :
    q.reply shared' r' a = q.reply shared r a := by
  cases a with
  | next => rw [reply, reply, readNext_congr hd]
  | rest => rw [reply, reply, readRest_congr hd]
  | as k => rw [reply, reply, nextAs, nextAs, readNext_congr (hk k rfl)]
  | hasNext | item | currency | permission | effect => rfl

/-- A client that asks the same of two registries that read the tokens alike hears the same. -/
theorem replies_congr {q : TokenQueue} {as : List Ask}
    (hd : ∀ t ∈ q.left, dispatch shared' r' t = dispatch shared r t)
    (hk : ∀ k, .as k ∈ as → ∀ t ∈ q.left, r'.readAs shared' k t = r.readAs shared k t) :
    q.replies shared' r' as = q.replies shared r as := by
  induction as generalizing q with
  | nil => rfl
  | cons a as ih =>
    have ha := reply_congr (a := a) hd fun k hak => hk k (hak ▸ List.mem_cons_self)
    have hleft := reply_left shared r q a
    rw [replies, replies, ha]
    exact congrArg (_ :: ·) (ih (fun t ht => hd t (hleft ht))
      fun k hm t ht => hk k (List.mem_cons_of_mem a hm) t (hleft ht))

end TokenQueue

/-- The registries of a process by their places. All clients share the one in place 0. -/
abbrev Registries := ℕ → Registry

namespace Registries

/-- A call to register a kind in one place. -/
abbrev Call := ℕ × Registration

def fresh : Registries := fun _ => .empty

def serve (rs : Registries) (c : Call) : Registries :=
  Function.update rs c.1 ((rs c.1).serve c.2).2

def after (calls : List Call) : Registries := calls.foldl serve fresh

/-- What a run registers in a place. -/
def callsTo (b : ℕ) (calls : List Call) : List Registration :=
  (calls.filter (·.1 = b)).map (·.2)

theorem serve_self (rs : Registries) (b : ℕ) (q : Registration) :
    rs.serve (b, q) b = ((rs b).serve q).2 :=
  Function.update_self _ _ _

/-- A call leaves the other places alone. -/
theorem serve_of_ne (rs : Registries) {b : ℕ} {c : Call} (h : c.1 ≠ b) : rs.serve c b = rs b :=
  Function.update_of_ne h.symm _ _

theorem foldl_serve (rs : Registries) (calls : List Call) (b : ℕ) :
    calls.foldl serve rs b = (rs b).registerAll (callsTo b calls) := by
  induction calls generalizing rs with
  | nil => rfl
  | cons c calls ih =>
    rw [List.foldl_cons, ih]
    by_cases hc : c.1 = b
    · obtain ⟨a, q⟩ := c
      obtain rfl : a = b := hc
      rw [serve_self, callsTo, callsTo, List.filter_cons_of_pos (by simp)]
      rfl
    · rw [serve_of_ne rs hc, callsTo, callsTo, List.filter_cons_of_neg (by simpa using hc)]

theorem after_apply (calls : List Call) (b : ℕ) :
    after calls b = Registry.empty.registerAll (callsTo b calls) := foldl_serve fresh calls b

theorem callsTo_map_self (b : ℕ) (qs : List Registration) : callsTo b (qs.map (b, ·)) = qs := by
  rw [callsTo, List.filter_eq_self.2 (by simp), List.map_map]
  exact List.map_id qs

theorem callsTo_map_of_ne {a b : ℕ} (h : a ≠ b) (qs : List Registration) :
    callsTo b (qs.map (a, ·)) = [] := by
  rw [callsTo, List.filter_eq_nil_iff.2 (by simpa using fun _ _ => h)]
  rfl

end Registries

namespace Registry

/-- The token, which stands outside parentheses, is left to the registry that all clients share. -/
def HandsOver (r : Registry) (t : Text) : Prop := ∃ e, r.find? t = some e ∧ e.reader = .group

/-- No token of the text, at any depth, is left to the registry that all clients share. -/
def Keeps (r : Registry) (text : Text) : Prop := ∀ t ∈ leafTokens text, ¬r.HandsOver t

/-- A reading as a given kind that does not ask the registry that all clients share. -/
def KeepsAs (r : Registry) (k : Kind) (token : Text) : Prop :=
  if k.name = Kind.group.name then r.Keeps (ungrouped token)
  else if k.name = Kind.item.name then True
  else match r.entry? k.name with
    | some e => e.reader ≠ .group
    | none => k.read ≠ .given .group

variable {shared shared' r : Registry}

theorem run_of_ne_group {b : BodyReader} (h : b ≠ .group) (body : Text) :
    b.run shared' body = b.run shared body := by
  cases b with
  | own read => rfl
  | group => exact absurd rfl h

theorem readOutside_kept {t : Text} (h : ¬r.HandsOver t) :
    readOutside shared' r t = readOutside shared r t := by
  cases hf : r.find? t with
  | none => rw [readOutside_unclaimed shared' hf, readOutside_unclaimed shared hf]
  | some e =>
    rw [readOutside_claimed shared' hf, readOutside_claimed shared hf]
    exact run_of_ne_group (fun he => h ⟨e, hf, he⟩) _

theorem dispatch_kept {token : Text} (h : ∀ t ∈ leavesOfToken token, ¬r.HandsOver t) :
    dispatch shared' r token = dispatch shared r token :=
  dispatch_congr fun t ht => readOutside_kept (h t ht)

theorem dispatchAll_kept {text : Text} (h : r.Keeps text) :
    dispatchAll shared' r text = dispatchAll shared r text :=
  dispatchAll_congr fun t ht => readOutside_kept (h t ht)

theorem readAs_kept {k : Kind} {token : Text} (h : r.KeepsAs k token) :
    r.readAs shared' k token = r.readAs shared k token := by
  unfold KeepsAs at h
  unfold readAs
  split
  · rename_i hg
    rw [if_pos hg] at h
    rw [readGroup, readGroup, dispatchAll_kept h]
  · rename_i hg
    rw [if_neg hg] at h
    split
    · rfl
    · rename_i hi
      rw [if_neg hi] at h
      cases he : r.entry? k.name with
      | some e =>
        rw [he] at h
        exact run_of_ne_group h _
      | none =>
        rw [he] at h
        cases hk : k.read with
        | missing => rfl
        | unusable => rfl
        | given b =>
          have hb : b ≠ .group := fun hb => h (hb ▸ hk)
          cases ht : r.trimFor k (trim token) with
          | error f => rfl
          | ok body => exact run_of_ne_group hb body

end Registry

/-- What a client can have a registry do. -/
inductive Request where
  | dispatch (token : Text)
  | dispatchAll (text : Text)
  | trim (k : Kind) (token : Text)
  | readAs (k : Kind) (token : Text)
  | parse (text : Text) (asks : List TokenQueue.Ask)

namespace Request

def Answer : Request → Type
  | dispatch _ => Except Failure Grantable
  | dispatchAll _ => Except Failure (List Grantable)
  | trim _ _ => Except KindFlaw Text
  | readAs _ _ => Except Failure Grantable
  | parse _ _ => Except GroupFlaw (List TokenQueue.Reply)

def answer (shared r : Registry) : (q : Request) → q.Answer
  | dispatch token => Rewards.dispatch shared r token
  | dispatchAll text => Rewards.dispatchAll shared r text
  | trim k token => r.trimFor k token
  | readAs k token => r.readAs shared k token
  | parse text asks => (TokenQueue.ofText text).map (·.replies shared r asks)

/-- Nothing that has to be read for the answer is left to the registry that all clients share. -/
def Kept (r : Registry) : Request → Prop
  | dispatch token => ∀ t ∈ leavesOfToken token, ¬r.HandsOver t
  | dispatchAll text => r.Keeps text
  | trim _ _ => True
  | readAs k token => r.KeepsAs k token
  | parse text asks => r.Keeps text ∧
      ∀ k, .as k ∈ asks → ∀ ts, tokens text = .ok ts → ∀ t ∈ ts, r.KeepsAs k t

variable {shared shared' r : Registry}

theorem answer_kept {q : Request} (h : q.Kept r) : q.answer shared' r = q.answer shared r := by
  cases q with
  | dispatch token => exact Registry.dispatch_kept h
  | dispatchAll text => exact Registry.dispatchAll_kept h
  | trim k token => rfl
  | readAs k token => exact Registry.readAs_kept h
  | parse text asks =>
    obtain ⟨hd, hk⟩ := h
    simp only [answer, TokenQueue.ofText]
    cases hts : tokens text with
    | error f => rfl
    | ok ts =>
      rw [Registry.Keeps, leafTokens_of_tokens hts] at hd
      refine congrArg Except.ok (TokenQueue.replies_congr (fun t ht => ?_) fun k ha t ht => ?_)
      · exact Registry.dispatch_kept fun u hu => hd u (List.mem_flatMap.2 ⟨t, ht, hu⟩)
      · exact Registry.readAs_kept (hk k ha ts hts t ht)

end Request

namespace Registry

variable {r : Registry} {e : Entry}

/-- A token that fewer kinds claim stays with the one that has it. -/
theorem find?_of_claims {t t' : Text} (h : r.find? t = some e) (he : e.opening.claims t' = true)
    (ho : ∀ o : Opening, o.claims t' = true → o.claims t = true) : r.find? t' = some e := by
  obtain ⟨-, as, bs, hl, has⟩ := List.find?_eq_some_iff_append.1 h
  refine List.find?_eq_some_iff_append.2 ⟨he, as, bs, hl, fun a ha => ?_⟩
  have hnot := has a ha
  rw [Bool.not_eq_true'] at hnot ⊢
  rw [Bool.eq_false_iff] at hnot ⊢
  exact fun hc => hnot (ho _ hc)

/-- Where a token is handed over, so is one whose body is a gem or an item that nobody knows. -/
theorem HandsOver.exists_token {t : Text} (h : r.HandsOver (trim t))
    (hp : (trim t).head? ≠ some '(') :
    ∃ token, ∀ shared, dispatch shared r token = readGroup shared shared "%3" := by
  obtain ⟨e, hf, hr⟩ := h
  have hclaimed := List.find?_some hf
  obtain ⟨body, hbody⟩ := Option.isSome_iff_exists.1 hclaimed
  obtain ⟨k, hk, ht, hgem, hclaims⟩ :=
    Opening.exists_exchange "%3".toList hbody (by decide) (by decide)
  have hhead : (k ++ "%3".toList).head? = (trim t).head? := by
    rw [ht, List.head?_append_of_ne_nil _ hk, List.head?_append_of_ne_nil _ hk]
  have htrim : trim (k ++ "%3".toList) = k ++ "%3".toList := by
    apply trim_of_trimmed
    refine ⟨fun c hc => (trimmed_trim t).1 c (hhead ▸ hc), fun c hc => ?_⟩
    rw [List.getLast?_append_of_ne_nil _ (by decide)] at hc
    obtain rfl : '3' = c := Option.some.inj hc
    decide
  have hfind : r.find? (k ++ "%3".toList) = some e :=
    find?_of_claims hf (by rw [Opening.claims, hgem]; rfl) hclaims
  refine ⟨k ++ "%3".toList, fun shared => ?_⟩
  rw [dispatch_outside (by rw [htrim]; simp) (by rwa [htrim, hhead]), htrim,
    readOutside_claimed shared hfind, hr, Opening.strip, hgem]
  rfl

/-- Gems alone are registered. -/
def gems : Registry := empty.registerAll [gem]

theorem find?_gems : gems.find? "%3" = some gemEntry := by
  have hn : empty.entry? gem.kind.name = none := by decide +kernel
  have hr : gems = empty.extend gemEntry := serve_new hn serve_gem
  rw [hr]
  exact find?_extend_of_claims (List.forall_mem_nil _) (by decide +kernel)

theorem readGroup_gem (shared : Registry) :
    readGroup shared shared "%3" = (readOutside shared shared "%3").map fun g => .group [g] := by
  have hu : ungrouped "%3".toList = "%3".toList := by decide
  have hts : tokens "%3" = .ok ["%3".toList] := by decide +kernel
  have ht : trim "%3".toList = "%3".toList := by decide
  rw [readGroup, hu, dispatchAll_of_tokens hts, Outcome.each, Outcome.each,
    dispatch_outside (by rw [ht]; decide) (by rw [ht]; decide), ht]
  cases readOutside shared shared "%3" <;> rfl

theorem isOk_read_gem : (readGroup gems gems "%3").isOk = true := by
  rw [readGroup_gem, readOutside_claimed gems find?_gems]
  decide +kernel

theorem isOk_read_unknown : (readGroup empty empty "%3").isOk = false := by
  rw [readGroup_gem, readOutside_unclaimed empty (by decide +kernel)]
  decide +kernel

end Registry

namespace Registries

variable {b : ℕ}

/-- A registry that hands a token over is not read alike by all processes: what no kind of the shared
registry knows in one of them is a gem in another. -/
theorem exists_read_apart (hb : b ≠ 0) (own : List Registration) {r : Registry} {t : Text}
    (hp : (trim t).head? ≠ some '(') (h : r.HandsOver (trim t)) :
    ∃ run run' token, callsTo b run = own ∧ callsTo b run' = own ∧
      dispatch (after run' 0) r token ≠ dispatch (after run 0) r token := by
  obtain ⟨token, hread⟩ := h.exists_token hp
  have hown : callsTo b (own.map (b, ·)) = own := callsTo_map_self b own
  have helse : callsTo 0 (own.map (b, ·)) = [] := callsTo_map_of_ne hb own
  refine ⟨own.map (b, ·), (0, Registry.gem) :: own.map (b, ·), token, hown, ?_, ?_⟩
  · rw [callsTo, List.filter_cons_of_neg (by simpa using hb.symm)]
    exact hown
  · have h0 : after (own.map (b, ·)) 0 = .empty := by
      rw [after_apply, helse]
      rfl
    have h1 : after ((0, Registry.gem) :: own.map (b, ·)) 0 = Registry.gems := by
      rw [after_apply, callsTo, List.filter_cons_of_pos (by rfl), List.map_cons, ← callsTo, helse]
      rfl
    rw [hread, hread, h0, h1]
    intro he
    have hok := Registry.isOk_read_gem
    rw [he, Registry.isOk_read_unknown] at hok
    cases hok

/-- Whatever else a run registers, a registry is made by the calls that it gets, and answers all requests
in the same way as long as no token that has to be read goes to the reader of groups through a kind of
its own, or as long as nothing else is registered in the place that all clients share. A token that
does go there is read by the registry in that place alone. So no other call of a run can change what
a registry makes of tokens exactly if no token goes there. -/
theorem separation {calls calls' : List Call} (h : callsTo b calls' = callsTo b calls) :
    let r := after calls b
    after calls' b = r ∧
    (∀ q : Request, q.Kept r ∨ callsTo 0 calls' = callsTo 0 calls →
      q.answer (after calls' 0) (after calls' b) = q.answer (after calls 0) r) ∧
    (∀ token e, (trim token).head? ≠ some '(' → r.find? (trim token) = some e →
      e.reader = .group → dispatch (after calls 0) r token =
        readGroup (after calls 0) (after calls 0) (e.opening.strip (trim token))) ∧
    (b ≠ 0 → ((∀ run run', callsTo b run = callsTo b calls → callsTo b run' = callsTo b calls →
        ∀ token, dispatch (after run' 0) r token = dispatch (after run 0) r token) ↔
      ∀ t, (trim t).head? ≠ some '(' → ¬r.HandsOver (trim t))) := by
  intro r
  have hr : after calls' b = r := by rw [after_apply, h, ← after_apply]
  refine ⟨hr, fun q hq => ?_, fun token e hp hf hg => ?_, fun hb => ⟨fun himm t hp hh => ?_, ?_⟩⟩
  · rw [hr]
    obtain hk | h0 := hq
    · exact Request.answer_kept hk
    · rw [after_apply calls' 0, h0, ← after_apply]
  · have hne : trim token ≠ [] := by
      intro hnil
      have hlen := Registry.strip_length hf
      rw [hnil] at hlen
      exact absurd hlen (Nat.not_lt_zero _)
    rw [dispatch_claimed hne hp hf, hg]
    rfl
  · obtain ⟨run, run', token, h1, h2, hne⟩ := exists_read_apart hb (callsTo b calls) hp hh
    exact hne (himm run run' h1 h2 token)
  · intro hkeep run run' _ _ token
    apply Registry.dispatch_kept
    intro t ht
    obtain ⟨htrim, hp⟩ := outside_of_mem_leavesOfToken ht
    rw [← htrim] at hp ⊢
    exact hkeep t hp

/-- Groups may be written `grp:…` besides their parentheses. -/
def grouping : Registration where
  kind := .group
  label := .given ⟨some "grp".toList, none⟩
  reader := .missing

def groupingEntry : Entry where
  kind := "Group"
  label := ⟨some "grp".toList, none⟩
  opening := ⟨.letter 'g' (.letter 'r' (.letter 'p' .done)), none⟩
  reader := .group
  order := 0

theorem find?_grouping :
    (Registry.empty.registerAll [grouping]).find? "grp:%3" = some groupingEntry := by
  have ho : groupingEntry.label.opening = .ok groupingEntry.opening := by decide +kernel
  have he : grouping.entry Registry.empty.custom.length = .ok groupingEntry :=
    Entry.ofKind_eq_ok_iff.2 ⟨_, _, _, rfl, rfl, ho, rfl⟩
  have hn : Registry.empty.entry? grouping.kind.name = none := by decide +kernel
  have hr : Registry.empty.registerAll [grouping] = Registry.empty.extend groupingEntry :=
    congrArg Prod.snd (Registry.serve_of_entry hn he)
  rw [hr]
  exact Registry.find?_extend_of_claims (List.forall_mem_nil _) (by decide +kernel)

/-- Groups are registered in place 1 of one process, and in another one gems in place 0 besides. Both
have the same registry in place 1, which reads gems in a group in the second process only. -/
theorem gem_reaches_group :
    let run : List Call := [(1, grouping)]
    let run' : List Call := [(1, grouping), (0, Registry.gem)]
    callsTo 1 run' = callsTo 1 run ∧ after run' 1 = after run 1 ∧
      (dispatch (after run 0) (after run 1) "grp:%3").isOk = false ∧
      (dispatch (after run' 0) (after run' 1) "grp:%3").isOk = true := by
  intro run run'
  have h : callsTo 1 run' = callsTo 1 run := rfl
  obtain ⟨hr, -, hread, -⟩ := separation h
  obtain ⟨-, -, hread', -⟩ := separation h.symm
  have hfind : (after run 1).find? (trim "grp:%3".toList) = some groupingEntry := by
    have ht : trim "grp:%3".toList = "grp:%3".toList := by decide
    rw [after_apply, ht]
    exact find?_grouping
  have hbody : groupingEntry.opening.strip (trim "grp:%3".toList) = "%3".toList := by decide
  refine ⟨h, hr, ?_, ?_⟩
  · rw [hread _ _ (by decide) hfind rfl, hbody, after_apply run 0]
    exact Registry.isOk_read_unknown
  · rw [hread' _ _ (by decide) (hr ▸ hfind) rfl, hbody, after_apply run' 0]
    exact Registry.isOk_read_gem

end Registries

end Rewards
