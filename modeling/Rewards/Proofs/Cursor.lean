import Rewards.Cursor
import Rewards.Proofs.Dispatch

/-!
A client that reads a descriptor token by token stays in step with its tokens. Every call that reads
uses up one token, whether or not it can be read, so its number alone tells which token it gets. An
iteration takes its tokens from the same place as all other calls.
-/

namespace Rewards.TokenQueue

open Text

variable {α : Type} {shared r : Registry}

/-- How a call reads the token that it uses up. -/
def Ask.reader? (shared r : Registry) : Ask → Option (Text → Except Failure Grantable)
  | hasNext => none
  | rest => none
  | next => some (dispatch shared r)
  | item => some fun t => (Item.read (some t)).map fun i => .leaf (.item i)
  | currency => some fun t => (Currency.read (some t)).map fun x => .leaf (.currency x)
  | permission => some fun t => (Permission.read (some t)).map fun node => .leaf (.permission node)
  | effect => some fun t => (Effect.read (some t)).map fun e => .leaf (.effect e)
  | as k => some (r.readAs shared k)

/-- The call is for one token. -/
def Ask.takes : Ask → Bool
  | hasNext => false
  | rest => false
  | _ => true

/-- What is left after a client has asked. -/
def after (shared r : Registry) (q : TokenQueue) (as : List Ask) : TokenQueue :=
  as.foldl (fun q a => (q.reply shared r a).2) q

/-- An iteration: as long as there is a next token, it is read, and what it stands for is handed out.
It ends with the tokens, or with the first that cannot be read. -/
inductive Iterates (read : Text → Except Failure α) :
    TokenQueue → List α → Option Failure → TokenQueue → Prop
  | done {q : TokenQueue} (h : q.hasNext = false) : Iterates read q [] none q
  | failed {q q' : TokenQueue} {f : Failure} (h : q.hasNext = true)
      (hn : q.readNext read = (.error f, q')) : Iterates read q [] (some f) q'
  | yield {q q₁ q' : TokenQueue} {a : α} {as : List α} {stop : Option Failure} (h : q.hasNext = true)
      (hn : q.readNext read = (.ok a, q₁)) (later : Iterates read q₁ as stop q') :
      Iterates read q (a :: as) stop q'

theorem single_readNext {β : Type} (wrap : β → Leaf) (read : Text → Except Failure β)
    (q : TokenQueue) : single wrap (q.readNext read) =
      (.one (q.readNext fun t => (read t).map fun b => Grantable.leaf (wrap b)).1,
        (q.readNext fun t => (read t).map fun b => Grantable.leaf (wrap b)).2) := by
  obtain ⟨_ | _⟩ := q <;> rfl

theorem reply_of_reader {a : Ask} {read : Text → Except Failure Grantable}
    (h : a.reader? shared r = some read) (q : TokenQueue) :
    q.reply shared r a = (.one (q.readNext read).1, (q.readNext read).2) := by
  cases a with
  | hasNext => cases h
  | rest => cases h
  | next => cases h; rfl
  | as k => cases h; rfl
  | item => cases h; exact single_readNext _ _ q
  | currency => cases h; exact single_readNext _ _ q
  | permission => cases h; exact single_readNext _ _ q
  | effect => cases h; exact single_readNext _ _ q

section Place

variable (ts : List Text) (k : ℕ)

theorem hasNext_drop : (⟨ts.drop k⟩ : TokenQueue).hasNext = decide (k < ts.length) := by
  rw [hasNext, Bool.eq_iff_iff]
  simp

/-- A call for one token reads the one at its place, and moves on by one place. -/
theorem readNext_drop (read : Text → Except Failure α) :
    (⟨ts.drop k⟩ : TokenQueue).readNext read = match ts[k]? with
      | some t => (read t, ⟨ts.drop (k + 1)⟩)
      | none => (.error (.refused (.lack .exhausted)), ⟨ts.drop k⟩) := by
  cases hk : ts[k]? with
  | none =>
    rw [List.drop_eq_nil_of_le (List.getElem?_eq_none_iff.1 hk)]
    rfl
  | some t =>
    obtain ⟨hlt, rfl⟩ := List.getElem?_eq_some_iff.1 hk
    rw [List.drop_eq_getElem_cons hlt]
    rfl

/-- Beyond the last token the place does not matter. -/
theorem readNext_drop_snd (read : Text → Except Failure α) :
    ((⟨ts.drop k⟩ : TokenQueue).readNext read).2 = ⟨ts.drop (k + 1)⟩ := by
  rw [readNext_drop]
  split
  · rfl
  · rename_i hk
    have hle := List.getElem?_eq_none_iff.1 hk
    rw [List.drop_eq_nil_of_le hle, List.drop_eq_nil_of_le (Nat.le_succ_of_le hle)]

theorem reply_drop_snd {a : Ask} (h : a ≠ .rest) :
    ((⟨ts.drop k⟩ : TokenQueue).reply shared r a).2 = ⟨ts.drop (k + if a.takes then 1 else 0)⟩ := by
  cases hr : a.reader? shared r with
  | some read =>
    have ha : a.takes = true := by cases a <;> first | rfl | cases hr
    rw [reply_of_reader hr, readNext_drop_snd, if_pos ha]
  | none =>
    cases a with
    | hasNext => rfl
    | rest => exact absurd rfl h
    | _ => cases hr

/-- The calls before it alone tell how many tokens a call finds used up. -/
theorem after_drop {as : List Ask} (h : .rest ∉ as) :
    (⟨ts.drop k⟩ : TokenQueue).after shared r as = ⟨ts.drop (k + as.countP Ask.takes)⟩ := by
  induction as generalizing k with
  | nil => rfl
  | cons a as ih =>
    rw [List.mem_cons, not_or] at h
    have hrest := ih (k + if a.takes then 1 else 0) h.2
    rw [after, List.foldl_cons, reply_drop_snd ts k (Ne.symm h.1), ← after, hrest, List.countP_cons,
      Nat.add_assoc, Nat.add_comm (as.countP _)]

end Place

theorem readRest_cons (read : Text → Except Failure α) (t : Text) (ts : List Text) :
    (⟨t :: ts⟩ : TokenQueue).readRest read = match read t with
      | .error f => (.error f, ⟨ts⟩)
      | .ok a => (((⟨ts⟩ : TokenQueue).readRest read).1.map (a :: ·),
          ((⟨ts⟩ : TokenQueue).readRest read).2) := by
  unfold readRest
  rw [readRest.go]
  cases read t <;> rfl

theorem readRest_fst (read : Text → Except Failure α) (ts : List Text) :
    ((⟨ts⟩ : TokenQueue).readRest read).1 = Outcome.each read ts := by
  induction ts with
  | nil => rfl
  | cons t ts ih =>
    rw [readRest_cons, Outcome.each, ← ih]
    cases read t with
    | error f => rfl
    | ok a => cases ((⟨ts⟩ : TokenQueue).readRest read).1 <;> rfl

/-- An iteration hands out what the tokens that are left stand for, up to the first that cannot be read.
That one is used up as well. -/
theorem exists_iterates (read : Text → Except Failure α) (ts : List Text) :
    ∃ used as, used.map read = as.map .ok ∧
      (ts = used ∧ Iterates read ⟨ts⟩ as none ⟨[]⟩ ∧
          (⟨ts⟩ : TokenQueue).readRest read = (.ok as, ⟨[]⟩) ∨
        ∃ t later f, ts = used ++ t :: later ∧ read t = .error f ∧
          Iterates read ⟨ts⟩ as (some f) ⟨later⟩ ∧
          (⟨ts⟩ : TokenQueue).readRest read = (.error f, ⟨later⟩)) := by
  induction ts with
  | nil => exact ⟨[], [], rfl, .inl ⟨rfl, .done rfl, rfl⟩⟩
  | cons t ts ih =>
    cases ht : read t with
    | error f =>
      have hnext : (⟨t :: ts⟩ : TokenQueue).readNext read = (.error f, ⟨ts⟩) := Prod.ext ht rfl
      exact ⟨[], [], rfl, .inr ⟨t, ts, f, rfl, ht, .failed rfl hnext, by rw [readRest_cons, ht]⟩⟩
    | ok a =>
      have hnext : (⟨t :: ts⟩ : TokenQueue).readNext read = (.ok a, ⟨ts⟩) := Prod.ext ht rfl
      obtain ⟨used, as, hused, ⟨rfl, hall, hread⟩ | ⟨u, later, f, rfl, hu, hfail, hread⟩⟩ := ih
      · refine ⟨t :: ts, a :: as, ?_, .inl ⟨rfl, .yield rfl hnext hall, ?_⟩⟩
        · rw [List.map_cons, List.map_cons, ht, hused]
        · rw [readRest_cons, ht, hread]
          rfl
      · refine ⟨t :: used, a :: as, ?_, .inr ⟨u, later, f, rfl, hu, .yield rfl hnext hfail, ?_⟩⟩
        · rw [List.map_cons, List.map_cons, ht, hused]
        · rw [readRest_cons, ht, hread]
          rfl

/-- The `k`-th call for a token reads the `k`-th token, whatever was asked before it and whether or not
that could be read. There is a next token as long as not all have been asked for, and from then on every
call is refused and changes nothing. An iteration that starts in between reads on from there, up to the
first token that cannot be read, which it uses up; one that starts at the front and comes to its end
hands out all that the descriptor stands for. -/
theorem parser_in_step (shared r : Registry) {text : Text} {ts : List Text}
    (h : tokens text = .ok ts) :
    ofText text = .ok ⟨ts⟩ ∧
    (∀ (start : ℕ) (as : List Ask), .rest ∉ as →
      let k := start + as.countP Ask.takes
      let q : TokenQueue := ⟨ts.drop k⟩
      (⟨ts.drop start⟩ : TokenQueue).after shared r as = q ∧
      q.reply shared r .hasNext = (.flag (k < ts.length), q) ∧
      (∀ a read, a.reader? shared r = some read → q.reply shared r a = match ts[k]? with
        | some t => (.one (read t), ⟨ts.drop (k + 1)⟩)
        | none => (.one (.error (.refused (.lack .exhausted))), q)) ∧
      ∃ used gs, used.map (dispatch shared r) = gs.map .ok ∧
        (ts.drop k = used ∧ Iterates (dispatch shared r) q gs none ⟨[]⟩ ∧
            q.reply shared r .rest = (.all (.ok gs), ⟨[]⟩) ∨
          ∃ t later f, ts.drop k = used ++ t :: later ∧ dispatch shared r t = .error f ∧
            Iterates (dispatch shared r) q gs (some f) ⟨later⟩ ∧
            q.reply shared r .rest = (.all (.error f), ⟨later⟩))) ∧
    ((⟨ts⟩ : TokenQueue).reply shared r .rest).1 = .all (dispatchAll shared r text) := by
  refine ⟨by rw [ofText, h]; rfl, fun start as has => ?_, ?_⟩
  · intro k q
    refine ⟨after_drop ts start has, ?_, fun a read hread => ?_, ?_⟩
    · rw [reply, hasNext_drop]
    · rw [reply_of_reader hread, readNext_drop]
      cases ts[k]? <;> rfl
    · obtain ⟨used, gs, hused, ⟨hall, hdone, hread⟩ | ⟨t, later, f, hsplit, ht, hfailed, hread⟩⟩ :=
        exists_iterates (dispatch shared r) (ts.drop k)
      · exact ⟨used, gs, hused, .inl ⟨hall, hdone, by rw [reply, hread]⟩⟩
      · exact ⟨used, gs, hused, .inr ⟨t, later, f, hsplit, ht, hfailed, by rw [reply, hread]⟩⟩
  · rw [dispatchAll_of_tokens h, ← readRest_fst]
    rfl

/-- The item is asked for as money and refused, and the money behind it is read all the same. -/
theorem money_behind_item :
    tokens "dirt,$1".toList = .ok ["dirt".toList, "$1".toList] ∧
      .rest ∉ [Ask.hasNext, .currency] ∧
      (⟨["dirt".toList, "$1".toList]⟩ : TokenQueue).after .empty .empty [.hasNext, .currency] =
        ⟨["$1".toList]⟩ ∧
      (⟨["$1".toList]⟩ : TokenQueue).reply .empty .empty .permission =
        (.one ((Permission.read (some "$1".toList)).map fun node => .leaf (.permission node)), ⟨[]⟩) := by
  have h : tokens "dirt,$1".toList = .ok ["dirt".toList, "$1".toList] := by decide +kernel
  have has : .rest ∉ [Ask.hasNext, .currency] := by simp
  obtain ⟨-, hsteps, -⟩ := parser_in_step .empty .empty h
  obtain ⟨hafter, -, hreply, -⟩ := hsteps 0 [.hasNext, .currency] has
  exact ⟨h, has, hafter, hreply .permission _ rfl⟩

end Rewards.TokenQueue
