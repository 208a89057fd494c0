/-
Which bodies bring a record, and which record. A body does exactly if it spells an envelope that marks success
and holds data that describes a login; any other body is refused for its mark, or malformed. Each record in it,
the envelope included, may be written as an object or as the list of its fields.
-/
import Gatehouse.Proofs.Backend.Attempt
import Gatehouse.Proofs.Json.Field

namespace Gatehouse.Backend

open Gatehouse.Identity Gatehouse.Login Gatehouse.Text
open Gatehouse.Json (Syntax IsOptional IsMark valuesOf)

/-! ## Readable values -/

/-- Every part of the value can be read, however deep it is nested. -/
def IsWhole (s : Syntax) : Prop := ∃ depth, s.isReadable depth = true

theorem areReadable_iff {depth : Nat} {items : List Syntax} :
    Json.areReadable depth items = true ↔ ∀ v ∈ items, v.isReadable depth = true := by
  induction items with
  | nil => simp [Json.areReadable]
  | cons v items ih => simp [Json.areReadable, ih]

theorem membersReadable_iff {depth : Nat} {members : List (Option String × Syntax)} :
    Json.membersReadable depth members = true ↔
      ∀ m ∈ members, m.1.isSome = true ∧ m.2.isReadable depth = true := by
  induction members with
  | nil => simp [Json.membersReadable]
  | cons m members ih => simp [Json.membersReadable, ih]

theorem isWhole_of_mem_list {items : List Syntax} (h : IsWhole (.list items)) {v : Syntax} (hv : v ∈ items) :
    IsWhole v := by
  obtain ⟨_ | depth, h⟩ := h
  · cases h
  · exact ⟨depth, areReadable_iff.1 h v hv⟩

theorem isWhole_of_mem_object {members : List (Option String × Syntax)} (h : IsWhole (.object members))
    {m : Option String × Syntax} (hm : m ∈ members) : m.1.isSome = true ∧ IsWhole m.2 := by
  obtain ⟨_ | depth, h⟩ := h
  · cases h
  · obtain ⟨hkey, hvalue⟩ := membersReadable_iff.1 h m hm
    exact ⟨hkey, depth, hvalue⟩

theorem isWhole_of_field? {names : List String} {name : String} {s v : Syntax} (h : IsWhole s)
    (hfield : s.field? names name = some v) : IsWhole v := by
  cases s with
  | object members =>
    exact (isWhole_of_mem_object h (Json.mem_valuesOf_iff.1 (List.mem_of_getLast? hfield))).2
  | list items => exact isWhole_of_mem_list h (List.mem_of_getElem? hfield)
  | _ => cases hfield

/-! ## Settled values -/

theorem settleItems_eq_map (items : List Syntax) : settleItems items = items.map settle := by
  induction items with
  | nil => rfl
  | cons v items ih => rw [settleItems, ih, List.map_cons]

theorem exists_mem_of_mem_settleMembers {members : List (Option String × Syntax)} {m : Option String × Syntax}
    (h : m ∈ settleMembers members) : ∃ v, (m.1, v) ∈ members := by
  induction members with
  | nil => cases h
  | cons head members ih =>
    obtain ⟨k, v⟩ := head
    have hrest (h : m ∈ settleMembers members) : ∃ w, (m.1, w) ∈ (k, v) :: members :=
      (ih h).imp fun _ => List.mem_cons_of_mem _
    rw [settleMembers] at h
    split at h
    · exact hrest h
    · rcases List.mem_cons.1 h with rfl | h
      · exact ⟨v, List.mem_cons_self⟩
      · exact hrest h

theorem valuesOf_settleMembers (name : String) (members : List (Option String × Syntax)) :
    valuesOf name (settleMembers members) = ((valuesOf name members).getLast?.map settle).toList := by
  induction members with
  | nil => rfl
  | cons head members ih =>
    obtain ⟨k, v⟩ := head
    rw [settleMembers, Json.valuesOf_cons]
    -- a member with the key stays only if none with it follows, and then it is the last one
    by_cases hk : k = some name
    · subst hk
      simp only [Json.any_key_iff, ih, if_true]
      cases hlast : (valuesOf name members).getLast? with
      | none =>
        rw [List.getLast?_eq_none_iff] at hlast
        simp [hlast, Json.valuesOf_cons, ih]
      | some last => simp [ih, hlast, List.getLast?_cons]
    · have hkept : valuesOf name ((k, settle v) :: settleMembers members) = valuesOf name (settleMembers members) := by
        rw [Json.valuesOf_cons, if_neg hk]
      rw [if_neg hk, ← ih]
      split
      · rfl
      · exact hkept

theorem field?_settle (names : List String) (name : String) (s : Syntax) :
    (settle s).field? names name = (s.field? names name).map settle := by
  cases s with
  | object members =>
    simp only [settle, Syntax.field?, valuesOf_settleMembers]
    cases (valuesOf name members).getLast? <;> rfl
  | list items => simp only [settle, Syntax.field?, settleItems_eq_map, List.getElem?_map]
  | _ => rfl

theorem isRecord_settle_iff {names : List String} {least : Nat} {s : Syntax} :
    (settle s).IsRecord names least ↔ s.IsRecord names least := by
  cases s with
  | object members => exact iff_of_true (.object _) (.object _)
  | list items =>
    have hlength : (items.map settle).length = items.length := List.length_map _
    rw [settle, settleItems_eq_map]
    constructor
    · rintro (_ | ⟨hleast, hmost⟩)
      exact .list (hlength ▸ hleast) (hlength ▸ hmost)
    · rintro (_ | ⟨hleast, hmost⟩)
      exact .list (hlength.symm ▸ hleast) (hlength.symm ▸ hmost)
  | _ => exact iff_of_false nofun nofun

theorem tellsOnce_settle {s : Syntax} (h : IsWhole s) (names : List String) : (settle s).TellsOnce names := by
  cases s with
  | object members =>
    refine ⟨fun m hm => ?_, fun name _ => ?_⟩
    · obtain ⟨v, hv⟩ := exists_mem_of_mem_settleMembers hm
      exact (isWhole_of_mem_object h hv).1
    · rw [valuesOf_settleMembers]
      cases (valuesOf name members).getLast? <;> simp
  | _ => trivial

/-- What is made of the fields of a record once it is settled. -/
theorem fields?_settle_bind_eq_some_iff {α : Type} {names : List String} (hnames : names.Nodup) {least : Nat}
    {s : Syntax} (h : IsWhole s) {f : List (Option Syntax) → Option α} {a : α} :
    ((settle s).fields? names least).bind f = some a ↔
      s.IsRecord names least ∧ f (names.map fun name => (s.field? names name).map settle) = some a := by
  rw [Json.fields?_bind_eq_some_iff hnames, isRecord_settle_iff, and_iff_right (tellsOnce_settle h names)]
  simp only [field?_settle]

@[simp] theorem requiredText?_map_settle (field : Option Syntax) :
    Json.requiredText? (field.map settle) = Json.requiredText? field := by
  rcases field with _ | (_ | _ | _ | _ | _ | _ | _ | _) <;> rfl

@[simp] theorem optionalText?_map_settle (field : Option Syntax) :
    Json.optionalText? (field.map settle) = Json.optionalText? field := by
  rcases field with _ | (_ | _ | _ | _ | _ | _ | _ | _) <;> rfl

@[simp] theorem boolOrFalse?_map_settle (field : Option Syntax) :
    Json.boolOrFalse? (field.map settle) = Json.boolOrFalse? field := by
  rcases field with _ | (_ | _ | _ | _ | _ | _ | _ | _) <;> rfl

theorem settle_eq_null_iff {s : Syntax} : settle s = .null ↔ s = .null := by
  cases s <;> simp [settle]

theorem isOptional_map_settle_iff {α : Type} {describes : Syntax → α → Prop} {field : Option Syntax} {a : Option α} :
    IsOptional describes (field.map settle) a ↔ IsOptional (fun v a => describes (settle v) a) field a := by
  cases a with
  | none => simp [IsOptional, Option.map_eq_some_iff, settle_eq_null_iff]
  | some a =>
    simp only [IsOptional, Option.map_eq_some_iff]
    constructor
    · rintro ⟨_, ⟨v, hv, rfl⟩, hnull, h⟩
      exact ⟨v, hv, mt settle_eq_null_iff.2 hnull, h⟩
    · rintro ⟨v, hv, hnull, h⟩
      exact ⟨_, ⟨v, hv, rfl⟩, mt settle_eq_null_iff.1 hnull, h⟩

/-! ## Descriptions -/

/-- The fields of a user, of which the first two are required. -/
def userFields : List String := ["id", "email", "name", "role", "organizationId", "onboardingCompleted"]

/-- The fields of an organization, of which the first is required. -/
def organizationFields : List String := ["id", "name"]

/-- The fields of a login, of which the first is required. -/
def loginFields : List String := ["user", "organization"]

/-- The fields of an envelope, of which none is required. -/
def envelopeFields : List String := ["success", "data"]

/-- The value describes the text. -/
def IsText (s : Syntax) (text : String) : Prop := s = .text text

/-- The value describes the user. -/
structure IsUser (s : Syntax) (user : UserRecord) : Prop where
  isRecord : s.IsRecord userFields 2
  id : s.field? userFields "id" = some (.text user.id)
  email : s.field? userFields "email" = some (.text user.email)
  name : IsOptional IsText (s.field? userFields "name") user.name
  role : IsOptional IsText (s.field? userFields "role") user.role
  organizationId : IsOptional IsText (s.field? userFields "organizationId") user.organizationId
  onboarded : IsMark (s.field? userFields "onboardingCompleted") user.onboarded

/-- The value describes the organization. -/
structure IsOrganization (s : Syntax) (organization : OrganizationRecord) : Prop where
  isRecord : s.IsRecord organizationFields 1
  id : s.field? organizationFields "id" = some (.text organization.id)
  name : IsOptional IsText (s.field? organizationFields "name") organization.name

/-- The value describes the login. -/
structure IsLogin (s : Syntax) (record : LoginRecord) : Prop where
  isRecord : s.IsRecord loginFields 1
  user : ∃ user, s.field? loginFields "user" = some user ∧ IsUser user record.user
  organization : IsOptional IsOrganization (s.field? loginFields "organization") record.organization

/-- The value describes data that is kept, all of which can be read. -/
def IsData (s data : Syntax) : Prop := s = data ∧ s.isReadable (Json.maxDepth - 1) = true

/-- The value describes the envelope. -/
structure IsEnvelope (s : Syntax) (envelope : Envelope) : Prop where
  isRecord : s.IsRecord envelopeFields 0
  tellsOnce : s.TellsOnce envelopeFields
  success : IsMark (s.field? envelopeFields "success") envelope.success
  data : IsOptional IsData (s.field? envelopeFields "data") envelope.data

/-! ## What values are read as -/

theorem userOfJson?_settle_eq_some_iff {s : Syntax} (h : IsWhole s) {user : UserRecord} :
    UserRecord.ofJson? (settle s) = some user ↔ IsUser s user := by
  have hnames : userFields.Nodup := by decide
  unfold UserRecord.ofJson?
  refine (fields?_settle_bind_eq_some_iff hnames h).trans ?_
  simp only [userFields, List.map, Option.bind_eq_bind, Option.bind_eq_some_iff, requiredText?_map_settle,
    optionalText?_map_settle, boolOrFalse?_map_settle, Json.requiredText?_eq_some_iff,
    Json.optionalText?_eq_some_iff, Json.boolOrFalse?_eq_some_iff]
  constructor
  · rintro ⟨hrecord, id, hid, email, hemail, name, hname, role, hrole, organization, horganization, mark, hmark, huser⟩
    cases huser
    exact ⟨hrecord, hid, hemail, hname, hrole, horganization, hmark⟩
  · intro huser
    exact ⟨huser.isRecord, _, huser.id, _, huser.email, _, huser.name, _, huser.role, _, huser.organizationId,
      _, huser.onboarded, rfl⟩

theorem organizationOfJson?_settle_eq_some_iff {s : Syntax} (h : IsWhole s) {organization : OrganizationRecord} :
    OrganizationRecord.ofJson? (settle s) = some organization ↔ IsOrganization s organization := by
  have hnames : organizationFields.Nodup := by decide
  unfold OrganizationRecord.ofJson?
  refine (fields?_settle_bind_eq_some_iff hnames h).trans ?_
  simp only [organizationFields, List.map, Option.bind_eq_bind, Option.bind_eq_some_iff, requiredText?_map_settle,
    optionalText?_map_settle, Json.requiredText?_eq_some_iff, Json.optionalText?_eq_some_iff]
  constructor
  · rintro ⟨hrecord, id, hid, name, hname, horganization⟩
    cases horganization
    exact ⟨hrecord, hid, hname⟩
  · intro horganization
    exact ⟨horganization.isRecord, _, horganization.id, _, horganization.name, rfl⟩

/-- The login in the fields of a record. -/
def loginOfFields? : List (Option Syntax) → Option LoginRecord
  | [some user, organization] => do
    let organization ← Json.optional? OrganizationRecord.ofJson? organization
    return { user := ← UserRecord.ofJson? user, organization := organization }
  | _ => none

theorem loginOfJson?_eq (s : Syntax) : LoginRecord.ofJson? s = (s.fields? loginFields 1).bind loginOfFields? := by
  unfold LoginRecord.ofJson?
  refine Option.bind_congr fun values _ => ?_
  -- the rest of the reading is repeated in each branch of the match on the organization
  match values with
  | [some user, none] => rfl
  | [some user, some organization] => cases organization <;> rfl
  | [none, _] => rfl
  | [] => rfl
  | [user] => cases user <;> rfl
  | user :: _ :: _ :: _ => cases user <;> rfl

theorem loginOfJson?_settle_eq_some_iff {s : Syntax} (h : IsWhole s) {record : LoginRecord} :
    LoginRecord.ofJson? (settle s) = some record ↔ IsLogin s record := by
  have hnames : loginFields.Nodup := by decide
  have hfields : loginFields.map (fun name => (s.field? loginFields name).map settle) =
      [(s.field? loginFields "user").map settle, (s.field? loginFields "organization").map settle] := rfl
  have horganization (organization : Option OrganizationRecord) :
      Json.optional? OrganizationRecord.ofJson? ((s.field? loginFields "organization").map settle) = some organization ↔
        IsOptional IsOrganization (s.field? loginFields "organization") organization := by
    rw [Json.optional?_eq_some_iff, isOptional_map_settle_iff]
    exact Json.isOptional_congr fun v _ hv => organizationOfJson?_settle_eq_some_iff (isWhole_of_field? h hv)
  rw [loginOfJson?_eq, fields?_settle_bind_eq_some_iff hnames h, hfields]
  cases hfield : s.field? loginFields "user" with
  | none =>
    refine iff_of_false (fun hread => nomatch hread.2) fun hlogin => ?_
    obtain ⟨user, huser, -⟩ := hlogin.user
    exact absurd (hfield.symm.trans huser) nofun
  | some user =>
    have huser (record : UserRecord) := @userOfJson?_settle_eq_some_iff user (isWhole_of_field? h hfield) record
    simp only [Option.map_some, loginOfFields?, Option.bind_eq_bind, Option.bind_eq_some_iff]
    constructor
    · rintro ⟨hrecord, organization, horg, found, hfound, hlogin⟩
      cases hlogin
      exact ⟨hrecord, ⟨user, hfield, (huser found).1 hfound⟩, (horganization organization).1 horg⟩
    · intro hlogin
      obtain ⟨described, hdescribed, huserOf⟩ := hlogin.user
      obtain rfl := Option.some.inj (hfield.symm.trans hdescribed)
      exact ⟨hlogin.isRecord, record.organization, (horganization _).2 hlogin.organization, record.user,
        (huser _).2 huserOf, rfl⟩

/-- The value as data, if all of it can be read. -/
def data? (s : Syntax) : Option Syntax := if s.isReadable (Json.maxDepth - 1) then some s else none

theorem data?_eq_some_iff {s data : Syntax} : data? s = some data ↔ IsData s data := by
  rw [data?, Option.ite_none_right_eq_some, Option.some_inj]
  exact and_comm

/-- The envelope in the fields of a record. -/
def envelopeOfFields? : List (Option Syntax) → Option Envelope
  | [success, data] => do return ⟨← Json.boolOrFalse? success, ← Json.optional? data? data⟩
  | _ => none

theorem ofBody?_eq (body : List UInt8) :
    Envelope.ofBody? body = (Syntax.read body).bind fun s => (s.fields? envelopeFields 0).bind envelopeOfFields? := by
  unfold Envelope.ofBody?
  refine Option.bind_congr fun s _ => Option.bind_congr fun values _ => ?_
  match values with
  | [success, data] =>
    refine Option.bind_congr fun mark _ => ?_
    rcases data with _ | data
    · rfl
    · cases data <;> simp only [Json.optional?, data?] <;> first | rfl | (split <;> rfl)
  | [] => rfl
  | [_] => rfl
  | _ :: _ :: _ :: _ => rfl

theorem ofBody?_eq_some_iff {body : List UInt8} {envelope : Envelope} :
    Envelope.ofBody? body = some envelope ↔ ∃ s, Syntax.read body = some s ∧ IsEnvelope s envelope := by
  have hnames : envelopeFields.Nodup := by decide
  rw [ofBody?_eq, Option.bind_eq_some_iff]
  refine exists_congr fun s => and_congr_right fun _ => ?_
  have hfields : envelopeFields.map (s.field? envelopeFields ·) =
      [s.field? envelopeFields "success", s.field? envelopeFields "data"] := rfl
  rw [Json.fields?_bind_eq_some_iff hnames, hfields]
  simp only [envelopeOfFields?, Option.bind_eq_bind, Option.bind_eq_some_iff, Json.boolOrFalse?_eq_some_iff,
    Json.optional?_eq_some_iff, data?_eq_some_iff]
  constructor
  · rintro ⟨hrecord, honce, mark, hmark, data, hdata, henvelope⟩
    cases henvelope
    exact ⟨hrecord, honce, hmark, hdata⟩
  · intro henvelope
    exact ⟨henvelope.isRecord, henvelope.tellsOnce, _, henvelope.success, _, henvelope.data, rfl⟩

/-! ## Bodies -/

/-- What a body tells, by the envelope that it spells. -/
inductive Tells (body : List UInt8) : Except ServiceError LoginRecord → Prop
  | login {s data : Syntax} {record : LoginRecord} (hread : Syntax.read body = some s)
    (henvelope : IsEnvelope s ⟨true, some data⟩) (hlogin : IsLogin data record) : Tells body (.ok record)
  | refusal {s : Syntax} {data : Option Syntax} (hread : Syntax.read body = some s)
    (henvelope : IsEnvelope s ⟨false, data⟩) : Tells body (.error (.rejected none))
  | noEnvelope (h : ∀ s envelope, Syntax.read body = some s → ¬ IsEnvelope s envelope) :
    Tells body (.error (.malformed .envelope))
  | noData {s : Syntax} (hread : Syntax.read body = some s) (henvelope : IsEnvelope s ⟨true, none⟩) :
    Tells body (.error (.malformed .missingData))
  | noLogin {s data : Syntax} (hread : Syntax.read body = some s) (henvelope : IsEnvelope s ⟨true, some data⟩)
    (hlogin : ∀ record, ¬ IsLogin data record) : Tells body (.error (.malformed .data))

theorem isWhole_of_isEnvelope {s data : Syntax} {success : Bool} (h : IsEnvelope s ⟨success, some data⟩) :
    IsWhole data := by
  obtain ⟨_, -, -, rfl, hreadable⟩ := h.data
  exact ⟨_, hreadable⟩

theorem recordOfBody_eq_iff {body : List UInt8} {result : Except ServiceError LoginRecord} :
    recordOfBody body = result ↔ Tells body result := by
  unfold recordOfBody
  constructor
  · rintro rfl
    split
    · rename_i hnone
      refine .noEnvelope fun s envelope hread henvelope => ?_
      exact absurd (hnone.symm.trans (ofBody?_eq_some_iff.2 ⟨s, hread, henvelope⟩)) nofun
    · rename_i henvelope
      obtain ⟨s, hread, henvelope⟩ := ofBody?_eq_some_iff.1 henvelope
      exact .refusal hread henvelope
    · rename_i henvelope
      obtain ⟨s, hread, henvelope⟩ := ofBody?_eq_some_iff.1 henvelope
      exact .noData hread henvelope
    · rename_i data henvelope
      obtain ⟨s, hread, henvelope⟩ := ofBody?_eq_some_iff.1 henvelope
      have hlogin (record : LoginRecord) :=
        @loginOfJson?_settle_eq_some_iff data (isWhole_of_isEnvelope henvelope) record
      split
      · rename_i hnone
        exact .noLogin hread henvelope fun record h => absurd (hnone.symm.trans ((hlogin record).2 h)) nofun
      · rename_i record hrecord
        exact .login hread henvelope ((hlogin record).1 hrecord)
  · intro h
    cases h with
    | login hread henvelope hlogin =>
      rw [ofBody?_eq_some_iff.2 ⟨_, hread, henvelope⟩]
      simp only [(loginOfJson?_settle_eq_some_iff (isWhole_of_isEnvelope henvelope)).2 hlogin]
    | refusal hread henvelope => rw [ofBody?_eq_some_iff.2 ⟨_, hread, henvelope⟩]
    | noEnvelope h =>
      have hnone : Envelope.ofBody? body = none := by
        rw [Option.eq_none_iff_forall_ne_some]
        intro envelope henvelope
        obtain ⟨s, hread, henvelope⟩ := ofBody?_eq_some_iff.1 henvelope
        exact h s envelope hread henvelope
      rw [hnone]
    | noData hread henvelope => rw [ofBody?_eq_some_iff.2 ⟨_, hread, henvelope⟩]
    | noLogin hread henvelope hlogin =>
      rename_i data
      have hnone : LoginRecord.ofJson? (settle data) = none := by
        rw [Option.eq_none_iff_forall_ne_some]
        intro record hrecord
        exact hlogin record ((loginOfJson?_settle_eq_some_iff (isWhole_of_isEnvelope henvelope)).1 hrecord)
      rw [ofBody?_eq_some_iff.2 ⟨_, hread, henvelope⟩]
      simp only [hnone]

/-- `recordOfBody` gives `record` exactly if `Syntax.read` reads the body as a value that `IsEnvelope` of `success`
and of data that `IsLogin` of `record`; both allow each record to be an object or a list of its fields. It gives
`.rejected none` exactly for a value that `IsEnvelope` without `success`, and every other error is `.malformed`. -/
theorem record_of_body (body : List UInt8) :
    (∀ record, recordOfBody body = .ok record ↔
      ∃ s data, Syntax.read body = some s ∧ IsEnvelope s ⟨true, some data⟩ ∧ IsLogin data record) ∧
    (recordOfBody body = .error (.rejected none) ↔
      ∃ s data, Syntax.read body = some s ∧ IsEnvelope s ⟨false, data⟩) ∧
    ∀ e, recordOfBody body = .error e → e = .rejected none ∨ ∃ defect, e = .malformed defect := by
  refine ⟨fun record => ?_, ?_, fun e h => ?_⟩
  · rw [recordOfBody_eq_iff]
    constructor
    · rintro (⟨hread, henvelope, hlogin⟩ | _ | _ | _ | _)
      exact ⟨_, _, hread, henvelope, hlogin⟩
    · rintro ⟨s, data, hread, henvelope, hlogin⟩
      exact .login hread henvelope hlogin
  · rw [recordOfBody_eq_iff]
    constructor
    · rintro (_ | ⟨hread, henvelope⟩ | _ | _ | _)
      exact ⟨_, _, hread, henvelope⟩
    · rintro ⟨s, data, hread, henvelope⟩
      exact .refusal hread henvelope
  · cases recordOfBody_eq_iff.1 h with
    | refusal _ _ => exact .inl rfl
    | noEnvelope _ => exact .inr ⟨_, rfl⟩
    | noData _ _ => exact .inr ⟨_, rfl⟩
    | noLogin _ _ _ => exact .inr ⟨_, rfl⟩

/-- The user of this body is written as the list of its id and its address. -/
def listedUserBody : List UInt8 :=
  bytesOf (Json.Value.object [("success", .bool true), ("data", .object [("user",
    .list [.text "0190f3c2-7c4e-7a51-9a64-2f3b7c1d9e01", .text "alice@example.com"])])]).render

/-- `recordOfBody` gives a record for `listedUserBody`, whose user is no object. -/
theorem user_in_a_list_is_accepted :
    Syntax.read listedUserBody =
      some (.object [(some "success", .bool true), (some "data", .object [(some "user",
        .list [.text "0190f3c2-7c4e-7a51-9a64-2f3b7c1d9e01", .text "alice@example.com"])])]) ∧
    recordOfBody listedUserBody =
      .ok ⟨⟨"0190f3c2-7c4e-7a51-9a64-2f3b7c1d9e01", "alice@example.com", none, none, none, false⟩, none⟩ := by
  refine ⟨?_, ?_⟩
  · rw [listedUserBody, bytesOf, Json.Value.render, String.toList_ofList]
    exact Json.read_write _ ⟨trivial, ⟨⟨trivial, trivial, trivial⟩, trivial⟩, trivial⟩
  · decide +kernel

end Gatehouse.Backend
