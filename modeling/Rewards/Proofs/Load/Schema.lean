import Mathlib.Data.List.Forall2
import Rewards.Load.Schema
import Rewards.Proofs.Assoc
import Rewards.Proofs.Outcome

/-!
Templates of accepted files. Their wave tables come from values in the file, and have each wave once.
-/

namespace Rewards

/-- A property that lists and mappings pass on to the values in them. -/
structure Value.Inherited (p : Value → Prop) : Prop where
  element : ∀ vs, p (.list vs) → ∀ v ∈ vs, p v
  entry : ∀ es, p (.mapping es) → ∀ e ∈ es, p e.2

namespace Schema

theorem eq_map_of_all {α : Type} {cs : List (Checked α)} {as : List α} (h : all cs = .ok as) :
    cs = as.map .ok := by
  induction cs generalizing as with
  | nil =>
    cases h
    rfl
  | cons c cs ih =>
    obtain ⟨⟨a, bs⟩, hboth, rfl⟩ := Outcome.map_eq_ok_iff.1 h
    obtain ⟨rfl, hs⟩ := both_eq_ok_iff.1 hboth
    rw [ih hs, List.map_cons]

theorem exists_of_all {α : Type} {cs : List (Checked α)} {as : List α} (h : all cs = .ok as) :
    ∀ a ∈ as, Except.ok a ∈ cs := by
  rw [eq_map_of_all h]
  exact fun a ha => List.mem_map_of_mem ha

/-- Of the entries for one wave the last one counts. -/
theorem exists_of_checkWaves {path : Path} {v : Value} {table : WaveTexts}
    (h : checkWaves path v = .ok table) :
    ∃ ps, checkEntries path checkInteger checkText v = .ok ps ∧ table = Assoc.ofList ps := by
  obtain ⟨ps, hps, h⟩ := Outcome.bind_eq_ok_iff.1 h
  dsimp only at h
  split at h
  · cases h
  · cases h
    exact ⟨ps, hps, rfl⟩

/-- What a field holds is checked, or it is the default. -/
theorem optionalField_eq_ok {α : Type} {path : Path} {name : Text} {default a : α}
    {check : Path → Value → Checked α} {es : List (Value × Value)}
    (h : optionalField path name default check es = .ok a) :
    (Value.field? es name = none ∧ a = default) ∨
      ∃ v, Value.field? es name = some v ∧ check (path ++ [.key name]) v = .ok a := by
  unfold optionalField at h
  split at h
  · rename_i v hv
    exact .inr ⟨v, hv, h⟩
  · rename_i hv
    exact .inl ⟨hv, (Except.ok.inj h).symm⟩

section Tables

variable {p : Value → Prop} (hp : Value.Inherited p)

/-- A wave table that is left out, or comes from a value with the property. -/
def TableOf (p : Value → Prop) (table : WaveTexts) : Prop :=
  table = [] ∨ ∃ path v, p v ∧ checkWaves path v = .ok table

include hp

theorem optionalField_cases {α : Type} {path : Path} {name : Text} {default a : α}
    {check : Path → Value → Checked α} {es : List (Value × Value)} (hes : p (.mapping es))
    (h : optionalField path name default check es = .ok a) :
    a = default ∨ ∃ path v, p v ∧ check path v = .ok a := by
  obtain ⟨-, h⟩ | ⟨v, hv, h⟩ := optionalField_eq_ok h
  · exact .inl h
  · obtain ⟨e, he, rfl⟩ := Option.map_eq_some_iff.1 hv
    exact .inr ⟨_, _, hp.entry es hes e (List.mem_of_find?_eq_some he), h⟩

theorem tableOf_checkWaveTables {path : Path} {v : Value} {waves : WaveTexts × WaveTexts} (hv : p v)
    (h : checkWaveTables path v = .ok waves) : TableOf p waves.1 ∧ TableOf p waves.2 := by
  unfold checkWaveTables at h
  split at h
  · obtain ⟨he, ha⟩ := both_eq_ok_iff.1 h
    exact ⟨optionalField_cases hp hv he, optionalField_cases hp hv ha⟩
  · cases h

theorem tableOf_checkArena {path : Path} {v : Value} {t : ArenaTemplate} (hv : p v)
    (h : checkArena path v = .ok t) : TableOf p t.every ∧ TableOf p t.after := by
  unfold checkArena at h
  split at h
  · obtain ⟨⟨n, w, c, k⟩, hall, rfl⟩ := Outcome.map_eq_ok_iff.1 h
    obtain ⟨-, hrest⟩ := both_eq_ok_iff.1 hall
    obtain ⟨hw, -⟩ := both_eq_ok_iff.1 hrest
    obtain rfl | ⟨_, _, hv, hw⟩ := optionalField_cases hp hv hw
    · exact ⟨.inl rfl, .inl rfl⟩
    · exact tableOf_checkWaveTables hp hv hw
  · cases h

/-- The wave tables of a file come from values with each property that it passes on. -/
theorem tableOf_checkFile {v : Value} {ts : List ArenaTemplate} (hv : p v)
    (h : checkFile v = .ok ts) : ∀ t ∈ ts, ∀ table ∈ [t.every, t.after], TableOf p table := by
  simp only [List.forall_mem_cons, List.not_mem_nil, false_implies, implies_true, and_true]
  unfold checkFile at h
  split at h
  · obtain rfl | ⟨_, v, hv, h⟩ := optionalField_cases hp hv h
    · simp
    · unfold checkArenas at h
      split at h
      · intro t ht
        obtain ⟨⟨u, i⟩, hu, hc⟩ := List.mem_map.1 (exists_of_all h t ht)
        exact tableOf_checkArena hp (hp.element _ hv u (List.fst_mem_of_mem_zipIdx hu)) hc
      · cases h
  · cases h

end Tables

/-- The keys of a table are distinct. -/
def Distinct (table : WaveTexts) : Prop := (table.map (·.1)).Nodup

theorem TableOf.distinct {p : Value → Prop} {table : WaveTexts} (h : TableOf p table) :
    Distinct table := by
  obtain rfl | ⟨path, v, -, h⟩ := h
  · exact List.nodup_nil
  · obtain ⟨ps, -, rfl⟩ := exists_of_checkWaves h
    exact Assoc.nodup_ofList ps

/-- The tables of an accepted file have each wave once. -/
theorem distinct_of_checkFile {v : Value} {ts : List ArenaTemplate} (h : checkFile v = .ok ts) :
    ∀ t ∈ ts, Distinct t.every ∧ Distinct t.after := by
  have hp : Value.Inherited fun _ => True := ⟨fun _ _ _ _ => trivial, fun _ _ _ _ => trivial⟩
  intro t ht
  have htable := tableOf_checkFile hp trivial h t ht
  exact ⟨(htable t.every (by simp)).distinct, (htable t.after (by simp)).distinct⟩

end Schema

end Rewards
