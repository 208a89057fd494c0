/-
Which settings an environment describes, and which it is refused for. What the text of a variable means is told
here by the ways to spell it, apart from how it is read. Settings are loaded exactly where every variable can be
used, and then each of them is what its variable means; else the first variable that cannot be used is to blame.
-/
import Gatehouse.Proofs.App.Basic
import Gatehouse.Proofs.Text.Blank
import Gatehouse.Proofs.Text.Integer
import Gatehouse.Proofs.Text.LetterCase
import Mathlib.Algebra.Ring.Int.Defs
import Mathlib.Algebra.Ring.Nat

namespace Gatehouse

open Gatehouse.Text

/-! ## What is set -/

/-- The variable is not set, or to nothing but blanks. -/
def Environment.Lacks (env : Environment) (v : Variable) : Prop := ∀ s, env v.name = some s → AreBlank s.toList

/-- The variable is set to the text, which is more than blanks. -/
def Environment.Holds (env : Environment) (v : Variable) (s : String) : Prop :=
  env v.name = some s ∧ ¬ AreBlank s.toList

/-- What an optional variable tells: what its text means without the blanks around it, or the default of a variable
that is lacking. -/
def Environment.Tells {α : Type} (env : Environment) (v : Variable) (default : α) (Means : List Char → α → Prop)
    (a : α) : Prop :=
  env.Lacks v ∧ a = default ∨ ∃ s, env.Holds v s ∧ Means (strip s.toList) a

theorem get_eq_some_iff {env : Environment} {v : Variable} {s : String} : env.get v = some s ↔ env.Holds v s := by
  rw [Environment.get, Option.filter_eq_some_iff, Environment.Holds, ← isBlankText_iff, Bool.not_eq_true']
  simp

theorem get_eq_none_iff {env : Environment} {v : Variable} : env.get v = none ↔ env.Lacks v := by
  rw [Environment.get, Option.filter_eq_none_iff, Environment.Lacks]
  simp [isBlankText_iff]

theorem get_congr {env other : Environment} {v : Variable}
    (h : other v.name = env v.name ∨ env.Lacks v ∧ other.Lacks v) : other.get v = env.get v := by
  rcases h with h | ⟨henv, hother⟩
  · unfold Environment.get
    rw [h]
  · rw [get_eq_none_iff.2 henv, get_eq_none_iff.2 hother]

theorem load_congr {env other : Environment} (h : ∀ v, other.get v = env.get v) :
    Settings.load other = Settings.load env := by
  simp only [Settings.load, Environment.require, Environment.read, h]

theorem not_holds_of_lacks {env : Environment} {v : Variable} (h : env.Lacks v) (s : String) : ¬ env.Holds v s :=
  fun hs => hs.2 (h s hs.1)

/-! ## Checks -/

theorem require_eq_ok_iff {env : Environment} {v : Variable} {s : String} :
    env.require v = .ok s ↔ env.Holds v s := by
  rw [← get_eq_some_iff]
  unfold Environment.require
  cases env.get v <;> simp

theorem require_eq_error_iff {env : Environment} {v : Variable} {e : SettingsError} :
    env.require v = .error e ↔ env.Lacks v ∧ .missing v = e := by
  rw [← get_eq_none_iff]
  unfold Environment.require
  cases env.get v <;> simp

/-- Of a text without blanks around it, parsing gives what it means. -/
def ParsesAs {α : Type} (parse : List Char → Option α) (Means : List Char → α → Prop) : Prop :=
  ∀ cs, HasBareEnds cs → ∀ a, parse cs = some a ↔ Means cs a

section Read

variable {α : Type} {parse : List Char → Option α} {Means : List Char → α → Prop} (hparse : ParsesAs parse Means)
  {env : Environment} {v : Variable} {default a : α}
include hparse

theorem read_eq_ok_iff : env.read v default parse = .ok a ↔ env.Tells v default Means a := by
  constructor
  · intro h
    rcases of_read h with ⟨hget, rfl⟩ | ⟨s, hget, hs⟩
    · exact .inl ⟨get_eq_none_iff.1 hget, rfl⟩
    · exact .inr ⟨s, get_eq_some_iff.1 hget, (hparse _ (hasBareEnds_strip _) a).1 hs⟩
  · unfold Environment.read
    rintro (⟨hlacks, rfl⟩ | ⟨s, hs, hmeans⟩)
    · rw [get_eq_none_iff.2 hlacks]
    · simp only [get_eq_some_iff.2 hs, (hparse _ (hasBareEnds_strip _) a).2 hmeans]

theorem of_read_error {e : SettingsError} (h : env.read v default parse = .error e) :
    (¬ ∃ a, env.Tells v default Means a) ∧ .invalid v = e := by
  constructor
  · rintro ⟨a, ha⟩
    rw [(read_eq_ok_iff hparse).2 ha] at h
    cases h
  · unfold Environment.read at h
    split at h
    · cases h
    · split at h
      · exact Except.error.inj h
      · cases h

end Read

/-! ## Meanings -/

/-- A lifetime: a 64-bit integer, from a second to a year of 365 days. -/
def MeansSeconds (cs : List Char) (n : Int) : Prop :=
  Integer.SpellsInteger cs n ∧ (-2 ^ 63 ≤ n ∧ n < 2 ^ 63) ∧ 1 ≤ n ∧ n ≤ 31536000

/-- A length: an unsigned 64-bit integer. -/
def MeansLength (cs : List Char) (n : Nat) : Prop := Integer.SpellsNatural cs n ∧ n < 2 ^ 64

/-- A time limit: an unsigned 64-bit integer other than zero. -/
def MeansMillis (cs : List Char) (n : Nat) : Prop := MeansLength cs n ∧ n ≠ 0

/-- A truth value, in small letters only. -/
inductive MeansTruth : List Char → Bool → Prop
  | yes : MeansTruth "true".toList true
  | no : MeansTruth "false".toList false

/-- The small letters of a name, each of them small or capital. -/
def IsInAnyCase (name : String) (cs : List Char) : Prop :=
  List.Forall₂ (fun c letter => c = letter ∨ c = letter.toUpper) cs name.toList

/-- The names of a log format. -/
def formatNames : Log.Format → List String
  | .json => ["json"]
  | .text => ["text", "pretty", "compact"]

/-- A name of a log format, in any case. -/
def MeansFormat (cs : List Char) (format : Log.Format) : Prop := ∃ name ∈ formatNames format, IsInAnyCase name cs

theorem parsesAs_length : ParsesAs unsigned? MeansLength := by
  intro cs _ n
  rw [unsigned?, Option.filter_eq_some_iff, Integer.natural?_eq_some_iff, MeansLength, decide_eq_true_iff,
    Integer.maxUnsigned]
  exact and_congr_right fun _ => by omega

theorem parsesAs_millis : ParsesAs timeoutMillis? MeansMillis := by
  intro cs hcs n
  rw [timeoutMillis?, Option.filter_eq_some_iff, parsesAs_length cs hcs, decide_eq_true_iff, MeansMillis]

theorem parsesAs_seconds : ParsesAs sessionSeconds? MeansSeconds := by
  intro cs _ n
  rw [sessionSeconds?, Option.filter_eq_some_iff, signed?, Option.filter_eq_some_iff, Integer.integer?_eq_some_iff,
    MeansSeconds, decide_eq_true_iff, decide_eq_true_iff, Integer.minSigned, Integer.maxSigned, maxSessionSeconds,
    and_assoc]
  exact and_congr_right fun _ => by omega

theorem parsesAs_truth : ParsesAs truthValue? MeansTruth := by
  intro cs _ b
  unfold truthValue?
  constructor
  · intro h
    split_ifs at h with hyes hno
    · cases h
      exact hyes ▸ .yes
    · cases h
      exact hno ▸ .no
  · rintro (_ | _) <;> decide

theorem parsesAs_format : ParsesAs (fun cs => Log.Format.ofName? (String.ofList cs)) MeansFormat := by
  intro cs hcs format
  have hname (name : String) (hletters : name.toList.all Char.isLower = true) :
      cs.map Char.toLower = name.toList ↔ IsInAnyCase name cs := map_toLower_eq_iff (List.all_eq_true.1 hletters)
  show Log.Format.ofName? (String.ofList cs) = some format ↔ MeansFormat cs format
  unfold MeansFormat Log.Format.ofName?
  rw [String.toList_ofList, strip_of_hasBareEnds hcs]
  cases format with
  | json =>
    simp only [formatNames, List.mem_singleton, exists_eq_left, ← hname "json" (by decide)]
    split_ifs with hjson
    · exact iff_of_true rfl hjson
    · exact iff_of_false nofun hjson
    · exact iff_of_false nofun hjson
  | text =>
    simp only [formatNames, List.mem_cons, List.not_mem_nil, or_false, exists_eq_or_imp, exists_eq_left,
      ← hname "text" (by decide), ← hname "pretty" (by decide), ← hname "compact" (by decide), List.contains_eq_mem,
      decide_eq_true_iff]
    split_ifs with hjson htext
    · exact iff_of_false nofun (by rw [hjson]; decide)
    · exact iff_of_true rfl (by simpa using htext)
    · exact iff_of_false nofun (by simpa using htext)

/-! ## The settings that are described -/

/-- The settings are what the variables of the environment mean. -/
structure Environment.Describes (env : Environment) (settings : Settings) : Prop where
  authSecret : env.Holds .authSecret settings.authSecret
  authSecret_long : 32 ≤ settings.authSecret.utf8ByteSize
  backendUrl : env.Holds .backendUrl settings.backendUrl
  listenAddress : env.Lacks .listenAddress ∧ settings.listenAddress = "0.0.0.0:8080" ∨
    env.Holds .listenAddress settings.listenAddress
  sessionLifetime : ∃ n, env.Tells .sessionSeconds 604800 MeansSeconds n ∧ settings.sessionLifetime = .ofSeconds n
  minPasswordLength : env.Tells .minPasswordLength 6 MeansLength settings.minPasswordLength
  backendTimeoutMillis : env.Tells .backendTimeout 10000 MeansMillis settings.backendTimeoutMillis
  secureCookie : env.Tells .secureCookie false MeansTruth settings.secureCookie
  logFormat : env.Tells .logFormat .json MeansFormat settings.logFormat

/-- The variable can be used: it means something, or it may be lacking and is. -/
def Environment.Accepts (env : Environment) : Variable → Prop
  | .authSecret => ∃ s, env.Holds .authSecret s ∧ 32 ≤ s.utf8ByteSize
  | .backendUrl => ∃ s, env.Holds .backendUrl s
  | .listenAddress => True
  | .sessionSeconds => ∃ n, env.Tells .sessionSeconds 604800 MeansSeconds n
  | .minPasswordLength => ∃ n, env.Tells .minPasswordLength 6 MeansLength n
  | .backendTimeout => ∃ n, env.Tells .backendTimeout 10000 MeansMillis n
  | .secureCookie => ∃ b, env.Tells .secureCookie false MeansTruth b
  | .logFormat => ∃ format, env.Tells .logFormat .json MeansFormat format

theorem Environment.Describes.accepts {env : Environment} {settings : Settings} (h : env.Describes settings)
    (v : Variable) : env.Accepts v := by
  cases v with
  | authSecret => exact ⟨_, h.authSecret, h.authSecret_long⟩
  | backendUrl => exact ⟨_, h.backendUrl⟩
  | listenAddress => trivial
  | sessionSeconds =>
    obtain ⟨n, hn, -⟩ := h.sessionLifetime
    exact ⟨n, hn⟩
  | minPasswordLength => exact ⟨_, h.minPasswordLength⟩
  | backendTimeout => exact ⟨_, h.backendTimeoutMillis⟩
  | secureCookie => exact ⟨_, h.secureCookie⟩
  | logFormat => exact ⟨_, h.logFormat⟩

theorem getD_get_eq_iff {env : Environment} {v : Variable} {default s : String} :
    (env.get v).getD default = s ↔ env.Lacks v ∧ s = default ∨ env.Holds v s := by
  cases hget : env.get v with
  | none =>
    have hlacks : env.Lacks v := get_eq_none_iff.1 hget
    rw [Option.getD_none]
    constructor
    · rintro rfl
      exact .inl ⟨hlacks, rfl⟩
    · rintro (⟨-, rfl⟩ | hs)
      · rfl
      · exact absurd hs (not_holds_of_lacks hlacks s)
  | some t =>
    have ht : env.Holds v t := get_eq_some_iff.1 hget
    rw [Option.getD_some]
    constructor
    · rintro rfl
      exact .inr ht
    · rintro (⟨hlacks, -⟩ | hs)
      · exact absurd ht (not_holds_of_lacks hlacks t)
      · exact Option.some.inj (hget.symm.trans (get_eq_some_iff.2 hs))

/-! ## The variable that is to blame -/

/-- The place of a variable in the order of the checks. -/
def Variable.place : Variable → Nat
  | .authSecret => 0
  | .backendUrl => 1
  | .listenAddress => 2
  | .sessionSeconds => 3
  | .minPasswordLength => 4
  | .backendTimeout => 5
  | .secureCookie => 6
  | .logFormat => 7

theorem place_injective {v w : Variable} (h : v.place = w.place) : v = w := by
  cases v <;> cases w <;> first | rfl | cases h

/-- All variables can be used whose checks come before a place. -/
def Environment.AcceptsBefore (env : Environment) (place : Nat) : Prop :=
  ∀ v : Variable, v.place < place → env.Accepts v

theorem acceptsBefore_zero (env : Environment) : env.AcceptsBefore 0 := nofun

theorem Environment.AcceptsBefore.succ {env : Environment} {v : Variable} (h : env.AcceptsBefore v.place)
    (hv : env.Accepts v) : env.AcceptsBefore (v.place + 1) := by
  intro w hw
  rcases Nat.lt_or_eq_of_le (Nat.le_of_lt_succ hw) with hlt | heq
  · exact h w hlt
  · rwa [place_injective heq]

/-- The first variable that cannot be used. -/
structure Environment.FirstRefused (env : Environment) (v : Variable) : Prop where
  before : env.AcceptsBefore v.place
  refused : ¬ env.Accepts v

theorem Environment.FirstRefused.unique {env : Environment} {v w : Variable} (hv : env.FirstRefused v)
    (hw : env.FirstRefused w) : v = w := by
  rcases Nat.lt_trichotomy v.place w.place with hlt | heq | hgt
  · exact absurd (hw.before v hlt) hv.refused
  · exact place_injective heq
  · exact absurd (hv.before w hgt) hw.refused

/-- The variable must be set. -/
def Variable.IsRequired (v : Variable) : Prop := v = .authSecret ∨ v = .backendUrl

/-- What the first variable that cannot be used is refused for: it is missing if it must be set and is lacking, and
invalid otherwise. -/
inductive Environment.IsRefusedFor (env : Environment) : SettingsError → Prop
  | missing {v : Variable} (hfirst : env.FirstRefused v) (hrequired : v.IsRequired) (hlacks : env.Lacks v) :
    env.IsRefusedFor (.missing v)
  | invalid {v : Variable} (hfirst : env.FirstRefused v) (hset : v.IsRequired → ¬ env.Lacks v) :
    env.IsRefusedFor (.invalid v)

theorem Environment.IsRefusedFor.unique {env : Environment} {d e : SettingsError} (hd : env.IsRefusedFor d)
    (he : env.IsRefusedFor e) : d = e := by
  cases hd with
  | missing hfirst hrequired hlacks =>
    cases he with
    | missing hfirst' _ _ => rw [hfirst.unique hfirst']
    | invalid hfirst' hset =>
      cases hfirst.unique hfirst'
      exact absurd hlacks (hset hrequired)
  | invalid hfirst hset =>
    cases he with
    | missing hfirst' hrequired hlacks =>
      cases hfirst.unique hfirst'
      exact absurd hlacks (hset hrequired)
    | invalid hfirst' _ => rw [hfirst.unique hfirst']

theorem not_isRefusedFor_of_describes {env : Environment} {settings : Settings} (h : env.Describes settings)
    (e : SettingsError) : ¬ env.IsRefusedFor e := by
  rintro (⟨hfirst, -, -⟩ | ⟨hfirst, -⟩)
  · exact hfirst.refused (h.accepts _)
  · exact hfirst.refused (h.accepts _)

/-! ## Loading -/

/-- What comes of loading is what the environment describes, or the error that it is refused for. -/
def Environment.Settles (env : Environment) : Except SettingsError Settings → Prop
  | .ok settings => env.Describes settings
  | .error e => env.IsRefusedFor e

/-- The check of a variable is passed exactly if the variable can be used, and then the later checks decide. -/
theorem settles_bind {α : Type} {env : Environment} {v : Variable} {check : Except SettingsError α}
    {rest : α → Except SettingsError Settings} (hbefore : env.AcceptsBefore v.place)
    (herror : ∀ e, check = .error e → env.FirstRefused v → env.IsRefusedFor e)
    (hpassed : env.Accepts v ↔ ∃ a, check = .ok a)
    (hrest : ∀ a, check = .ok a → env.AcceptsBefore (v.place + 1) → env.Settles (rest a)) :
    env.Settles (check >>= rest) := by
  cases check with
  | error e =>
    have hrefused : ¬ env.Accepts v := fun hv => by
      obtain ⟨a, ha⟩ := hpassed.1 hv
      cases ha
    exact herror e rfl ⟨hbefore, hrefused⟩
  | ok a => exact hrest a rfl (hbefore.succ (hpassed.2 ⟨a, rfl⟩))

theorem settles_read {α : Type} {parse : List Char → Option α} {Means : List Char → α → Prop}
    (hparse : ParsesAs parse Means) {env : Environment} {v : Variable} {default : α}
    {rest : α → Except SettingsError Settings} (hv : ¬ v.IsRequired)
    (haccepts : env.Accepts v ↔ ∃ a, env.Tells v default Means a) (hbefore : env.AcceptsBefore v.place)
    (hrest : ∀ a, env.Tells v default Means a → env.AcceptsBefore (v.place + 1) → env.Settles (rest a)) :
    env.Settles (env.read v default parse >>= rest) := by
  apply settles_bind hbefore
  · intro e he hfirst
    obtain ⟨-, rfl⟩ := of_read_error hparse he
    exact .invalid hfirst fun hrequired => absurd hrequired hv
  · simp only [haccepts, read_eq_ok_iff hparse]
  · intro a ha
    exact hrest a ((read_eq_ok_iff hparse).1 ha)

theorem settles_load (env : Environment) : env.Settles (Settings.load env) := by
  have hnone : env.AcceptsBefore Variable.authSecret.place := acceptsBefore_zero env
  unfold Settings.load
  cases hrequire : env.require .authSecret with
  | error e =>
    obtain ⟨hlacks, rfl⟩ := require_eq_error_iff.1 hrequire
    refine .missing ⟨hnone, ?_⟩ (.inl rfl) hlacks
    rintro ⟨s, hs, -⟩
    exact not_holds_of_lacks hlacks s hs
  | ok secret =>
    have hsecret : env.Holds .authSecret secret := require_eq_ok_iff.1 hrequire
    show env.Settles (if secret.utf8ByteSize < minSecretBytes then _ else _)
    split_ifs with hshort
    · refine .invalid ⟨hnone, ?_⟩ fun _ hlacks => not_holds_of_lacks hlacks secret hsecret
      rintro ⟨s, hs, hlong⟩
      cases Option.some.inj (hsecret.1.symm.trans hs.1)
      exact absurd hlong (Nat.not_le.2 hshort)
    have hurl : env.AcceptsBefore Variable.backendUrl.place :=
      hnone.succ ⟨secret, hsecret, Nat.not_lt.1 hshort⟩
    refine settles_bind hurl ?_ ?_ fun url hrequire hbefore => ?_
    · intro e he hfirst
      obtain ⟨hlacks, rfl⟩ := require_eq_error_iff.1 he
      exact .missing hfirst (.inr rfl) hlacks
    · simp only [require_eq_ok_iff]
      rfl
    have hseconds : env.AcceptsBefore Variable.sessionSeconds.place := hbefore.succ (v := .listenAddress) trivial
    refine settles_read parsesAs_seconds nofun Iff.rfl hseconds fun seconds hseconds hbefore => ?_
    refine settles_read parsesAs_length nofun Iff.rfl hbefore fun length hlength hbefore => ?_
    refine settles_read parsesAs_millis nofun Iff.rfl hbefore fun millis hmillis hbefore => ?_
    refine settles_read parsesAs_truth nofun Iff.rfl hbefore fun secure hsecure hbefore => ?_
    refine settles_read parsesAs_format nofun Iff.rfl hbefore fun format hformat _ => ?_
    exact ⟨hsecret, Nat.not_lt.1 hshort, require_eq_ok_iff.1 hrequire, getD_get_eq_iff.1 rfl, ⟨seconds, hseconds, rfl⟩,
      hlength, hmillis, hsecure, hformat⟩

theorem load_of_describes {env : Environment} {settings : Settings} (h : env.Describes settings) :
    Settings.load env = .ok settings := by
  obtain ⟨n, hn, hlifetime⟩ := h.sessionLifetime
  have hlong : ¬ settings.authSecret.utf8ByteSize < minSecretBytes := Nat.not_lt.2 h.authSecret_long
  have hseconds := (read_eq_ok_iff parsesAs_seconds).2 hn
  have hlength := (read_eq_ok_iff parsesAs_length).2 h.minPasswordLength
  have hmillis := (read_eq_ok_iff parsesAs_millis).2 h.backendTimeoutMillis
  have htruth := (read_eq_ok_iff parsesAs_truth).2 h.secureCookie
  have hformat := (read_eq_ok_iff parsesAs_format).2 h.logFormat
  rw [Settings.load, require_eq_ok_iff.2 h.authSecret, require_eq_ok_iff.2 h.backendUrl, defaultSessionSeconds,
    hseconds, defaultMinPasswordLength, hlength, Login.defaultTimeoutMillis, hmillis, htruth, Log.Format.fallback,
    hformat, defaultListenAddress, getD_get_eq_iff.2 h.listenAddress]
  show (if settings.authSecret.utf8ByteSize < minSecretBytes then _
    else Except.ok { settings with sessionLifetime := .ofSeconds n }) = _
  rw [if_neg hlong, ← hlifetime]

theorem load_eq_ok_iff {env : Environment} {settings : Settings} :
    Settings.load env = .ok settings ↔ env.Describes settings := by
  refine ⟨fun h => ?_, load_of_describes⟩
  have hsettles := settles_load env
  rwa [h] at hsettles

theorem load_eq_error_iff {env : Environment} {e : SettingsError} :
    Settings.load env = .error e ↔ env.IsRefusedFor e := by
  have hsettles := settles_load env
  constructor
  · intro h
    rwa [h] at hsettles
  · intro h
    cases hload : Settings.load env with
    | error d =>
      rw [hload] at hsettles
      rw [hsettles.unique h]
    | ok settings =>
      rw [hload] at hsettles
      exact absurd h (not_isRefusedFor_of_describes hsettles e)

/-- `Settings.load` depends on the eight variables only, and on a blank one as on one that is not set (`Lacks`). It
succeeds exactly if the environment `Accepts` every variable, and then gives the settings that it `Describes`: each
field what its variable means, or the default if it is lacking. It fails exactly with the error that the environment
`IsRefusedFor`: `.missing` for the first variable that cannot be used if it is required and lacking, and `.invalid`
for it otherwise. -/
theorem settings_exact (env : Environment) :
    (∀ other : Environment, (∀ v : Variable, other v.name = env v.name ∨ env.Lacks v ∧ other.Lacks v) →
      Settings.load other = Settings.load env) ∧
    ((∃ settings, Settings.load env = .ok settings) ↔ ∀ v, env.Accepts v) ∧
    (∀ settings, Settings.load env = .ok settings ↔ env.Describes settings) ∧
    ∀ e, Settings.load env = .error e ↔ env.IsRefusedFor e := by
  refine ⟨?_, ?_, fun settings => load_eq_ok_iff, fun e => load_eq_error_iff⟩
  · intro other halike
    exact load_congr fun v => get_congr (halike v)
  · constructor
    · rintro ⟨settings, hload⟩
      exact (load_eq_ok_iff.1 hload).accepts
    · intro haccepts
      cases hload : Settings.load env with
      | ok settings => exact ⟨settings, rfl⟩
      | error e =>
        rcases load_eq_error_iff.1 hload with ⟨hfirst, -, -⟩ | ⟨hfirst, -⟩
        · exact absurd (haccepts _) hfirst.refused
        · exact absurd (haccepts _) hfirst.refused

/-- The environment of the service on one machine, with other texts for the length of passwords and for a session's
seconds. -/
def respelledEnvironment (length seconds : String) : Environment := fun name =>
  if name = "MIN_PASSWORD_LENGTH" then some length
  else if name = "SESSION_TTL_SECS" then some seconds
  else localEnvironment name

/-- A tab as the password length and a no-break space as the seconds are as good as nothing, and so is a variable of
another name. Of a length of -1 and a year and a second, the seconds are refused; the longest length that fits a word
and a year are not. -/
theorem settings_exact_blank_or_wrong :
    Settings.load (fun name => if name = "HOME" then some "/" else respelledEnvironment "\t" "\u00a0" name) =
      Settings.load localEnvironment ∧
    (respelledEnvironment "-1" " +031536001").IsRefusedFor (.invalid .sessionSeconds) ∧
    ∃ settings, (respelledEnvironment "18446744073709551615" " +031536000").Describes settings ∧
      settings.minPasswordLength = 2 ^ 64 - 1 := by
  refine ⟨(settings_exact localEnvironment).1 _ fun v => ?_, ?_, ?_⟩
  · cases v with
    | minPasswordLength => exact .inr ⟨nofun, by rintro s ⟨⟩; exact isBlankText_iff.1 (by decide)⟩
    | sessionSeconds => exact .inr ⟨nofun, by rintro s ⟨⟩; exact isBlankText_iff.1 (by decide)⟩
    | _ => exact .inl (by decide)
  · exact ((settings_exact _).2.2.2 _).1 (by decide +kernel)
  · obtain ⟨settings, hload⟩ : ∃ settings, Settings.load (respelledEnvironment "18446744073709551615" " +031536000") =
        .ok settings ∧ settings.minPasswordLength = 2 ^ 64 - 1 := ⟨_, rfl, by decide +kernel⟩
    exact ⟨settings, ((settings_exact _).2.2.1 settings).1 hload.1, hload.2⟩

end Gatehouse
