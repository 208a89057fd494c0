/-
The fields of a record, whichever way it is written. In an object a field is what stands under its name, in
a list what stands in its place, and a record is read exactly if it has the one form or the other and, as an
object, tells all its keys and no named one twice.
-/
import Gatehouse.Proofs.Json.Record

namespace Gatehouse.Json

/-! ## Named members -/

theorem uniqueMember?_eq_some_iff {members : List (Option String × Syntax)} {name : String} {value : Option Syntax} :
    uniqueMember? members name = some value ↔
      (valuesOf name members).length ≤ 1 ∧ (valuesOf name members).getLast? = value := by
  unfold uniqueMember?
  match valuesOf name members with
  | [] => simp
  | [v] => simp
  | v :: w :: rest => exact iff_of_false nofun fun h => absurd h.1 (by simp)

/-- The named members of an object are read if every key can be and none of the names stands twice. -/
theorem namedMembers?_eq_some_iff {names : List String} {members : List (Option String × Syntax)}
    {values : List (Option Syntax)} :
    namedMembers? names members = some values ↔
      (∀ member ∈ members, member.1.isSome = true) ∧ (∀ name ∈ names, (valuesOf name members).length ≤ 1) ∧
        names.map (fun name => (valuesOf name members).getLast?) = values := by
  have hmapM : names.mapM (uniqueMember? members) = some values ↔
      (∀ name ∈ names, (valuesOf name members).length ≤ 1) ∧
        names.map (fun name => (valuesOf name members).getLast?) = values := by
    rw [mapM_eq_some_iff]
    simp only [uniqueMember?_eq_some_iff]
    rw [List.forall₂_and_left, ← List.forall₂_map_left_iff, List.forall₂_eq_eq_eq]
  unfold namedMembers?
  split
  · rename_i hkeys
    rw [hmapM, and_iff_right (List.all_eq_true.1 hkeys)]
  · rename_i hkeys
    exact iff_of_false nofun fun h => hkeys (List.all_eq_true.2 h.1)

/-! ## Fields -/

/-- The field of a record: what an object has last under its name, or what a list has in its place. -/
def Syntax.field? (names : List String) (name : String) : Syntax → Option Syntax
  | .object members => (valuesOf name members).getLast?
  | .list items => items[names.idxOf name]?
  | _ => none

/-- The value has the form of a record: an object, or a list with a field for each name or at least for the first of them. -/
inductive Syntax.IsRecord (names : List String) (least : Nat) : Syntax → Prop
  | object (members : List (Option String × Syntax)) : IsRecord names least (.object members)
  | list {items : List Syntax} (hleast : least ≤ items.length) (hmost : items.length ≤ names.length) :
    IsRecord names least (.list items)

/-- As an object, the value tells all its keys and none of the names twice. -/
def Syntax.TellsOnce (names : List String) : Syntax → Prop
  | .object members =>
    (∀ member ∈ members, member.1.isSome = true) ∧ ∀ name ∈ names, (valuesOf name members).length ≤ 1
  | _ => True

theorem map_getElem?_idxOf {names : List String} (hnames : names.Nodup) {items : List Syntax}
    (h : items.length ≤ names.length) :
    names.map (fun name => items[names.idxOf name]?) =
      items.map some ++ List.replicate (names.length - items.length) none := by
  apply List.ext_getElem
  · simp; omega
  · intro i hi _
    rw [List.length_map] at hi
    -- the name in a place is found there, since no name stands twice
    rw [List.getElem_map, hnames.idxOf_getElem i hi, List.getElem_append]
    by_cases hitem : i < items.length
    · simp [hitem]
    · simp [hitem]

/-- `fields?` succeeds exactly on a value that `IsRecord` and `TellsOnce` its names, and gives the field of each name.
-/
theorem fields?_eq_some_iff {names : List String} (hnames : names.Nodup) {least : Nat} {s : Syntax}
    {values : List (Option Syntax)} :
    s.fields? names least = some values ↔
      s.IsRecord names least ∧ s.TellsOnce names ∧ names.map (s.field? names ·) = values := by
  cases s with
  | object members =>
    have hrecord : Syntax.IsRecord names least (.object members) := .object members
    rw [Syntax.fields?, namedMembers?_eq_some_iff, and_iff_right hrecord, Syntax.TellsOnce, and_assoc]
    exact Iff.rfl
  | list items =>
    rw [Syntax.fields?]
    split
    · rename_i hlength
      have hfields := map_getElem?_idxOf hnames hlength.2
      have htells : Syntax.TellsOnce names (.list items) := trivial
      rw [and_iff_right (.list hlength.1 hlength.2), and_iff_right htells, Option.some_inj, ← hfields]
      exact Iff.rfl
    · rename_i hlength
      refine iff_of_false (Option.some_ne_none values).symm fun h => hlength ?_
      cases h.1 with
      | list hleast hmost => exact ⟨hleast, hmost⟩
  | _ =>
    refine iff_of_false (Option.some_ne_none values).symm fun h => ?_
    cases h.1

/-- What is made of the fields of a record. -/
theorem fields?_bind_eq_some_iff {α : Type} {names : List String} (hnames : names.Nodup) {least : Nat} {s : Syntax}
    {f : List (Option Syntax) → Option α} {a : α} :
    (s.fields? names least).bind f = some a ↔
      s.IsRecord names least ∧ s.TellsOnce names ∧ f (names.map (s.field? names ·)) = some a := by
  rw [Option.bind_eq_some_iff]
  simp only [fields?_eq_some_iff hnames, and_assoc, exists_and_left, exists_eq_left']

/-! ## The values of fields -/

/-- What stands in a field that may be left out: nothing or `null`, or else what describes the value. -/
def IsOptional {α : Type} (describes : Syntax → α → Prop) (field : Option Syntax) : Option α → Prop
  | none => field = none ∨ field = some .null
  | some a => ∃ v, field = some v ∧ v ≠ .null ∧ describes v a

/-- What stands in a field for a mark that may be left out: nothing or `false`, or else `true`. -/
def IsMark (field : Option Syntax) : Bool → Prop
  | false => field = none ∨ field = some (.bool false)
  | true => field = some (.bool true)

/-- A field that may be absent or `null` and else is read. -/
def optional? {α : Type} (read : Syntax → Option α) : Option Syntax → Option (Option α)
  | none => some none
  | some .null => some none
  | some v => (read v).map some

theorem optional?_eq_some_iff {α : Type} {read : Syntax → Option α} {field : Option Syntax} {a : Option α} :
    optional? read field = some a ↔ IsOptional (fun v a => read v = some a) field a := by
  match field with
  | none => cases a <;> simp [optional?, IsOptional]
  | some v =>
    by_cases hnull : v = .null
    · subst hnull
      cases a <;> simp [optional?, IsOptional]
    · have hread : optional? read (some v) = (read v).map some := by
        cases v <;> first | rfl | exact absurd rfl hnull
      rw [hread, Option.map_eq_some_iff]
      cases a <;> simp [IsOptional, hnull]

theorem isOptional_congr {α : Type} {describes describes' : Syntax → α → Prop} {field : Option Syntax}
    (h : ∀ v a, field = some v → (describes v a ↔ describes' v a)) {a : Option α} :
    IsOptional describes field a ↔ IsOptional describes' field a := by
  cases a with
  | none => exact Iff.rfl
  | some a => exact exists_congr fun v => and_congr_right fun hv => and_congr_right fun _ => h v a hv

theorem requiredText?_eq_some_iff {field : Option Syntax} {text : String} :
    requiredText? field = some text ↔ field = some (.text text) := by
  unfold requiredText?
  split
  · simp
  · rename_i hother
    exact iff_of_false nofun fun h => hother text h

theorem optionalText?_eq_some_iff {field : Option Syntax} {text : Option String} :
    optionalText? field = some text ↔ IsOptional (fun v s => v = .text s) field text := by
  have hoptional : optionalText? field = optional? (fun v => requiredText? (some v)) field := by
    rcases field with _ | (_ | _ | _ | _ | _ | _ | _ | _) <;> rfl
  rw [hoptional, optional?_eq_some_iff]
  exact isOptional_congr fun v s _ => requiredText?_eq_some_iff.trans Option.some_inj

theorem boolOrFalse?_eq_some_iff {field : Option Syntax} {mark : Bool} :
    boolOrFalse? field = some mark ↔ IsMark field mark := by
  unfold boolOrFalse?
  split
  · cases mark <;> simp [IsMark]
  · cases mark <;> simp [IsMark]
  · rename_i hnone hbool
    refine iff_of_false nofun fun h => ?_
    cases mark with
    | false => exact h.elim hnone (hbool false)
    | true => exact hbool true h

end Gatehouse.Json
