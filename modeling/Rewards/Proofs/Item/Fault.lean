import Rewards.Item
import Rewards.Proofs.Fault

/-!
Where reading an item breaks: at a numeral that is too long, in the place of the material, the data
value, the amount, an enchantment or its level.
-/

namespace Rewards.Item

open Text Catalog

theorem breaksIff_readMaterial (t : Text) : BreaksIff (readMaterial t) (Overlong t) := by
  refine (breaksIff_find? materials t).bind_of_not fun m? => ?_
  cases m? with
  | none => exact BreaksIff.refuse _ _
  | some m => exact BreaksIff.ok m

theorem breaksIff_readData (m : Key) (t : Text) : BreaksIff (readData m t) (Overlong t) := by
  refine breaksIff_ite_isNumeral ((breaksIff_natural t).bind_of_not fun n => ?_) ?_
  · generalize (if m = potion then maxPotionData else maxData) = limit
    split
    · exact BreaksIff.refuse _ _
    · exact BreaksIff.ok n
  · split
    · exact BreaksIff.ok _
    · exact BreaksIff.refuse _ _

theorem breaksIff_readAmount (t : Text) : BreaksIff (readAmount t) (Overlong t) := by
  refine breaksIff_ite_isNumeral ((breaksIff_natural t).bind_of_not fun n => ?_)
    (BreaksIff.refuse _ _)
  split
  · exact BreaksIff.refuse _ _
  · exact BreaksIff.ok n

/-- When the parts of an item before its enchantments break: the first that has no value is too
long a number. -/
def PartsBreak : List Text → Prop
  | [m] => Overlong m
  | [m, a] => Overlong m ∨ ∃ k, readMaterial m = .ok k ∧ Overlong a
  | [m, d, a] => Overlong m ∨ ∃ k, readMaterial m = .ok k ∧
      (Overlong d ∨ ∃ n, readData k d = .ok n ∧ Overlong a)
  | _ => False

theorem breaksIff_readBase (t : Text) : BreaksIff (readBase t) (PartsBreak (pieces ':' t)) := by
  rw [readBase]
  match pieces ':' t with
  | [m] => exact (breaksIff_readMaterial m).bind_of_not fun k => BreaksIff.ok _
  | [m, a] =>
    exact (breaksIff_readMaterial m).bind fun k _ =>
      (breaksIff_readAmount a).bind_of_not fun n => BreaksIff.ok _
  | [m, d, a] =>
    exact (breaksIff_readMaterial m).bind fun k _ => (breaksIff_readData k d).bind fun n _ =>
      (breaksIff_readAmount a).bind_of_not fun _ => BreaksIff.ok _
  | [] => exact BreaksIff.refuse _ _
  | _ :: _ :: _ :: _ :: _ => exact BreaksIff.refuse _ _

/-- A level without its sign. -/
def unsigned : Text → Text
  | '-' :: s => s
  | '+' :: s => s
  | s => s

theorem breaksIff_readLevel (t : Text) : BreaksIff (readLevel t) (Overlong (unsigned t)) := by
  have h : ∀ (whole : Text) (negative : Bool) (digits : Text), BreaksIff (do
      if isNumeral digits then
        let n ← readNatural digits
        return if negative then -(n : Int) else n
      else refuse .level whole) (Overlong digits) := fun whole negative digits =>
    breaksIff_ite_isNumeral ((breaksIff_natural digits).bind_of_not fun n => BreaksIff.ok _)
      (BreaksIff.refuse _ _)
  fun_cases unsigned t with
  | case1 s => exact h _ true s
  | case2 s => exact h _ false s
  | case3 _ hm hp =>
    rw [readLevel]
    · exact h _ false t
    · exact hm
    · exact hp

/-- When the parts of an enchantment break: the first that has no value is too long a number. -/
def EnchantmentBreaks : List Text → Prop
  | [e, l] => Overlong e ∨ ∃ k, enchantment? e = .ok (some k) ∧ Overlong (unsigned l)
  | _ => False

theorem breaksIff_readEnchantment (t : Text) :
    BreaksIff (readEnchantment t) (EnchantmentBreaks (pieces ':' t)) := by
  rw [readEnchantment]
  match pieces ':' t with
  | [e, l] =>
    exact breaksIff_find?_bind (BreaksIff.refuse _ _) fun k =>
      (breaksIff_readLevel l).bind_of_not fun n => BreaksIff.ok _
  | [] => exact BreaksIff.refuse _ _
  | [_] => exact BreaksIff.refuse _ _
  | _ :: _ :: _ :: _ => exact BreaksIff.refuse _ _

/-- The entries between semicolons that are not empty. -/
def entries (t : Text) : List Text := ((pieces ';' t).map trim).filter (!·.isEmpty)

/-- The parts before the first space break, or they have values and of the enchantments after it
the first that has none breaks. -/
def BreaksIn (t : Text) : Prop :=
  PartsBreak (pieces ':' (cut ' ' t).1) ∨ ∃ i, readBase (cut ' ' t).1 = .ok i ∧
    FirstUnread readEnchantment (fun e => EnchantmentBreaks (pieces ':' e))
      (entries (trim ((cut ' ' t).2.getD [])))

theorem breaksIff_ofToken (t : Text) : BreaksIff (ofToken t) (BreaksIn t) := by
  refine (breaksIff_readBase _).bind fun i _ => BreaksIff.bind_of_not ?_ fun es => BreaksIff.ok _
  exact (BreaksIff.each fun e _ => breaksIff_readEnchantment e).bind_of_not fun es =>
    BreaksIff.ok _

end Rewards.Item
