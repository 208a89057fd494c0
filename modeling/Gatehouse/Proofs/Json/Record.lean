/-
The fields of an object, each found by its own name. In an object that was written with different
keys, each name finds the value that was written for it, and nothing where none was.
-/
import Gatehouse.Json.Record
import Gatehouse.Proofs.Json.RoundTrip
import Mathlib.Data.List.Forall2
import Mathlib.Tactic.SplitIfs

namespace Gatehouse.Json

/-! ## Values by key -/

theorem valuesOf_cons (key : String) (m : Option String × Syntax) (members : List (Option String × Syntax)) :
    valuesOf key (m :: members) =
      if m.1 = some key then m.2 :: valuesOf key members else valuesOf key members := by
  rw [valuesOf, List.filterMap_cons]
  split_ifs with hkey
  · simp only [if_pos hkey, valuesOf]
  · simp only [if_neg hkey, valuesOf]

theorem mem_valuesOf_iff {key : String} {members : List (Option String × Syntax)} {v : Syntax} :
    v ∈ valuesOf key members ↔ (some key, v) ∈ members := by
  rw [valuesOf, List.mem_filterMap]
  constructor
  · rintro ⟨⟨k, w⟩, hm, hvalue⟩
    rw [Option.ite_none_right_eq_some] at hvalue
    obtain ⟨rfl, hvalue⟩ := hvalue
    cases hvalue
    exact hm
  · intro hm
    exact ⟨_, hm, if_pos rfl⟩

theorem any_key_iff {key : String} {members : List (Option String × Syntax)} :
    members.any (·.1 == some key) = true ↔ valuesOf key members ≠ [] := by
  rw [List.any_eq_true]
  constructor
  · rintro ⟨⟨k, v⟩, hm, hkey⟩
    obtain rfl := eq_of_beq hkey
    exact List.ne_nil_of_mem (mem_valuesOf_iff.2 hm)
  · intro hvalues
    obtain ⟨v, hv⟩ := List.exists_mem_of_ne_nil _ hvalues
    exact ⟨_, mem_valuesOf_iff.1 hv, beq_self_eq_true _⟩

/-! ## Fields by name -/

theorem mapM_eq_some_iff {α β : Type} {f : α → Option β} {as : List α} {bs : List β} :
    as.mapM f = some bs ↔ List.Forall₂ (fun a b => f a = some b) as bs := by
  induction as generalizing bs with
  | nil =>
    rw [List.mapM_nil, List.forall₂_nil_left_iff]
    exact Option.some_inj.trans eq_comm
  | cons a as ih =>
    rw [List.mapM_cons, List.forall₂_cons_left_iff]
    constructor
    · intro h
      obtain ⟨b, hb, h⟩ := Option.bind_eq_some_iff.1 h
      obtain ⟨bs', hbs, h⟩ := Option.bind_eq_some_iff.1 h
      exact ⟨b, bs', hb, ih.1 hbs, (Option.some.inj h).symm⟩
    · rintro ⟨b, bs', hb, hbs, rfl⟩
      rw [hb, ih.2 hbs]
      rfl

/-- Each of the named members is the one that its own name finds. -/
theorem forall₂_of_namedMembers? {names : List String} {members : List (Option String × Syntax)}
    {values : List (Option Syntax)} (h : namedMembers? names members = some values) :
    List.Forall₂ (fun name value => uniqueMember? members name = some value) names values := by
  unfold namedMembers? at h
  split at h
  · exact mapM_eq_some_iff.1 h
  · cases h

/-! ## Written objects -/

theorem shapeMembers_eq_map (ms : List (String × Value)) :
    shapeMembers ms = ms.map fun m => (some m.1, m.2.shape) := by
  induction ms with
  | nil => rfl
  | cons m ms ih => rw [shapeMembers, ih, List.map_cons]

theorem valuesOf_of_notMem {key : String} {ms : List (String × Value)} (h : key ∉ ms.map Prod.fst) :
    valuesOf key (shapeMembers ms) = [] := by
  rw [List.eq_nil_iff_forall_not_mem, shapeMembers_eq_map]
  intro v hv
  obtain ⟨m, hm, hshape⟩ := List.mem_map.1 (mem_valuesOf_iff.1 hv)
  cases hshape
  exact h (List.mem_map_of_mem hm)

/-- Of members with different keys, a key has the value that is found for it. -/
theorem valuesOf_shapeMembers {ms : List (String × Value)} (h : (ms.map Prod.fst).Nodup) (key : String) :
    valuesOf key (shapeMembers ms) = ((ms.lookup key).map Value.shape).toList := by
  induction ms with
  | nil => rfl
  | cons m ms ih =>
    obtain ⟨k, v⟩ := m
    rw [List.map_cons, List.nodup_cons] at h
    rw [shapeMembers, valuesOf_cons]
    by_cases hk : key = k
    · subst hk
      rw [if_pos rfl, valuesOf_of_notMem h.1, List.lookup_cons_self]
      rfl
    · rw [if_neg (by simpa using Ne.symm hk), ih h.2, List.lookup_cons, beq_eq_false_iff_ne.2 hk]

theorem uniqueMember?_shapeMembers {ms : List (String × Value)} (h : (ms.map Prod.fst).Nodup) (key : String) :
    uniqueMember? (shapeMembers ms) key = some ((ms.lookup key).map Value.shape) := by
  rw [uniqueMember?, valuesOf_shapeMembers h]
  cases ms.lookup key <;> rfl

theorem namedMembers?_shapeMembers {ms : List (String × Value)} (h : (ms.map Prod.fst).Nodup)
    (names : List String) :
    namedMembers? names (shapeMembers ms) = some (names.map fun name => (ms.lookup name).map Value.shape) := by
  have hkeys : (shapeMembers ms).all (·.1.isSome) = true := by
    rw [shapeMembers_eq_map]; simp
  have hunique : uniqueMember? (shapeMembers ms) = fun name => pure ((ms.lookup name).map Value.shape) :=
    funext fun name => uniqueMember?_shapeMembers h name
  rw [namedMembers?, if_pos hkeys, hunique]
  exact List.mapM_pure

theorem fields?_shape {ms : List (String × Value)} (h : (ms.map Prod.fst).Nodup) (names : List String)
    (least : Nat) :
    (Value.object ms).shape.fields? names least =
      some (names.map fun name => (ms.lookup name).map Value.shape) := by
  rw [Value.shape, Syntax.fields?]
  exact namedMembers?_shapeMembers h names

end Gatehouse.Json
