import KernelRollout.Operator.Settings
import KernelRollout.Proofs.Text.Blank
import KernelRollout.Proofs.Text.Numeral

namespace KernelRollout.Settings

open Text (Trimmed Numeral)

variable {env : Environment} {s s' : Settings} {raw : String}

-- The variables that hold a value, but for the namespace, which any text can be.
inductive Variable where
  | requeueDelay
  | apiTimeout
  | backoffMin
  | backoffMax
  | probeAddress
deriving DecidableEq

namespace Variable

-- In the order in which they are read.
def all : List Variable := [requeueDelay, apiTimeout, backoffMin, backoffMax, probeAddress]

def name : Variable → String
  | requeueDelay => "REQUEUE_DELAY_SECS"
  | apiTimeout   => "API_TIMEOUT_SECS"
  | backoffMin   => "ERROR_BACKOFF_MIN_SECS"
  | backoffMax   => "ERROR_BACKOFF_MAX_SECS"
  | probeAddress => "PROBE_ADDR"

def Value : Variable → Type
  | probeAddress => Net.SocketAddress
  | _            => Nat

end Variable

def value (s : Settings) : (v : Variable) → v.Value
  | .requeueDelay => s.requeueDelaySecs
  | .apiTimeout   => s.apiTimeoutSecs
  | .backoffMin   => s.backoffMinSecs
  | .backoffMax   => s.backoffMaxSecs
  | .probeAddress => s.probeAddress

-- Between blanks, a numeral of a number of 64 bits.
def Secs (raw : String) (n : Nat) : Prop := ∃ cs, Trimmed raw cs ∧ Numeral cs n ∧ n < 2 ^ 64

def Address (raw : String) (a : Net.SocketAddress) : Prop :=
  ∃ cs, Trimmed raw cs ∧ Net.SocketAddress.parse cs = some a

theorem readSecs_eq_ok_iff {n : Nat} : readSecs raw = .ok n ↔ Secs raw n := by
  have hbound : Text.wordBound = 2 ^ 64 := rfl
  simp only [Secs, ← Text.trim_eq_iff, exists_eq_left', ← hbound, ← Text.readNumeral_eq_ok_iff]
  rw [readSecs]
  cases Text.readNumeral Text.wordBound (Text.trim raw) with
  | error e => exact ⟨nofun, nofun⟩
  | ok m =>
    constructor
    all_goals
      intro h
      cases h
      rfl

theorem readAddress_eq_ok_iff {a : Net.SocketAddress} : readAddress raw = .ok a ↔ Address raw a := by
  simp only [Address, ← Text.trim_eq_iff, exists_eq_left']
  rw [readAddress]
  cases Net.SocketAddress.parse (Text.trim raw) <;> simp

namespace Variable

variable {v : Variable}

def Reads (raw : String) : (v : Variable) → v.Value → Prop
  | probeAddress => Address raw
  | requeueDelay | apiTimeout | backoffMin | backoffMax => Secs raw

def Readable (env : Environment) (v : Variable) : Prop :=
  ∀ raw, env v.name = some raw → ∃ a, v.Reads raw a

-- The value of the variable, or the default if it is not set.
inductive Given (env : Environment) (v : Variable) : v.Value → Prop
  | set {raw : String} {a : v.Value} (hset : env v.name = some raw) (h : v.Reads raw a) : Given env v a
  | unset (hunset : env v.name = none) : Given env v (({} : Settings).value v)

def reader : (v : Variable) → String → Except ValueProblem v.Value
  | probeAddress => readAddress
  | requeueDelay | apiTimeout | backoffMin | backoffMax => readSecs

theorem reader_eq_ok_iff {a : v.Value} : v.reader raw = .ok a ↔ v.Reads raw a := by
  cases v with
  | probeAddress => exact readAddress_eq_ok_iff
  | _ => exact readSecs_eq_ok_iff

theorem Reads.unique {a b : v.Value} (ha : v.Reads raw a) (hb : v.Reads raw b) : a = b :=
  Except.ok.inj ((reader_eq_ok_iff.mpr ha).symm.trans (reader_eq_ok_iff.mpr hb))

theorem Given.readable {a : v.Value} (h : v.Given env a) : v.Readable env := by
  intro raw hraw
  cases h with
  | @set raw' a hset h =>
    cases hset.symm.trans hraw
    exact ⟨a, h⟩
  | unset hunset => cases hunset.symm.trans hraw

theorem Given.unique {a b : v.Value} (ha : v.Given env a) (hb : v.Given env b) : a = b := by
  cases ha with
  | set hset h =>
    cases hb with
    | set hset' h' =>
      cases hset.symm.trans hset'
      exact h.unique h'
    | unset hunset => cases hset.symm.trans hunset
  | unset hunset =>
    cases hb with
    | set hset h => cases hset.symm.trans hunset
    | unset => rfl

end Variable

-- The namespace that is watched, or none for all of them.
inductive Watches (env : Environment) : Option String → Prop
  | one {ns : String} (hset : env "WATCH_NAMESPACE" = some ns) (hfilled : ¬Trimmed ns []) :
    Watches env (some ns)
  | all (hblank : ∀ ns, env "WATCH_NAMESPACE" = some ns → Trimmed ns []) : Watches env none

-- The settings that an environment asks for.
structure Asked (env : Environment) (s : Settings) : Prop where
  ns     : Watches env s.ns
  values : ∀ v : Variable, v.Given env (s.value v)

-- Calls have some time, and the first delay is not zero and not longer than the longest one.
structure Consistent (s : Settings) : Prop where
  timeout : s.apiTimeoutSecs ≠ 0
  min     : 1 ≤ s.backoffMinSecs
  max     : s.backoffMinSecs ≤ s.backoffMaxSecs

-- Of variables in the order of reading, the first that cannot be read is named.
inductive FirstUnreadable (env : Environment) : List Variable → ConfigProblem → Prop
  | here {v : Variable} {vs raw} (problem : ValueProblem) (hset : env v.name = some raw)
    (h : ∀ a, ¬v.Reads raw a) : FirstUnreadable env (v :: vs) (.unreadable v.name raw problem)
  | later {v : Variable} {vs p} (hv : v.Readable env) (h : FirstUnreadable env vs p) :
    FirstUnreadable env (v :: vs) p

-- What is wrong with an environment.
inductive Refused (env : Environment) : ConfigProblem → Prop
  | unreadable {p} (h : FirstUnreadable env Variable.all p) : Refused env p
  | zeroTimeout {s : Settings} (h : Asked env s) (hzero : s.apiTimeoutSecs = 0) : Refused env .zeroTimeout
  | backoffBounds {s : Settings} (h : Asked env s) (htimeout : s.apiTimeoutSecs ≠ 0)
    (hbounds : ¬(1 ≤ s.backoffMinSecs ∧ s.backoffMinSecs ≤ s.backoffMaxSecs)) :
    Refused env (.backoffBounds s.backoffMinSecs s.backoffMaxSecs)

theorem watches_readNamespace (env : Environment) : Watches env (readNamespace env) := by
  have hblank (ns : String) : Trimmed ns [] ↔ Text.allBlank ns = true := by
    rw [← Text.trim_eq_iff, Text.trim_eq_nil_iff]
  rw [readNamespace]
  cases hset : env "WATCH_NAMESPACE" with
  | none => exact .all fun ns h => by cases hset.symm.trans h
  | some ns =>
    rw [Option.filter_some]
    split
    case isTrue h => exact .one hset (by simpa [hblank] using h)
    case isFalse h =>
      refine .all fun ns' h' => ?_
      cases hset.symm.trans h'
      simpa [hblank] using h

theorem Watches.unique {ns ns' : Option String} (h : Watches env ns) (h' : Watches env ns') : ns = ns' := by
  cases h with
  | one hset hfilled =>
    cases h' with
    | one hset' => exact hset.symm.trans hset'
    | all hblank => exact absurd (hblank _ hset) hfilled
  | all hblank =>
    cases h' with
    | one hset hfilled => exact absurd (hblank _ hset) hfilled
    | all => rfl

theorem Asked.unique (h : Asked env s) (h' : Asked env s') : s = s' := by
  have hvalue (v : Variable) := (h.values v).unique (h'.values v)
  have hns := h.ns.unique h'.ns
  cases s
  cases s'
  cases hns
  cases hvalue .requeueDelay
  cases hvalue .apiTimeout
  cases hvalue .backoffMin
  cases hvalue .backoffMax
  cases hvalue .probeAddress
  rfl

theorem FirstUnreadable.not_asked {vs : List Variable} {p : ConfigProblem} (h : FirstUnreadable env vs p) :
    ¬Asked env s := by
  intro hs
  induction h with
  | @here v vs raw problem hset h =>
    have ⟨a, ha⟩ := (hs.values v).readable raw hset
    exact h a ha
  | later _ _ hi => exact hi

-- What comes of reading some variables and going on with their values: the first one that is not
-- readable, or what `P` says of the values.
def Ends {α : Type} (env : Environment) (vs : List Variable) (P : Except OperatorError α → Prop)
    (r : Except OperatorError α) : Prop :=
  P r ∨ ∃ p, FirstUnreadable env vs p ∧ r = .error (.invalidConfig p)

theorem ends_readVariable {α : Type} {vs : List Variable} {P : Except OperatorError α → Prop}
    (v : Variable) {f : v.Value → Except OperatorError α}
    (hf : ∀ a, v.Given env a → Ends env vs P (f a)) :
    Ends env (v :: vs) P (readVariable env v.reader (({} : Settings).value v) v.name >>= f) := by
  have hgiven (a : v.Value) (ha : v.Given env a) : Ends env (v :: vs) P (f a) :=
    (hf a ha).imp_right fun ⟨p, hp, he⟩ => ⟨p, .later ha.readable hp, he⟩
  rw [readVariable]
  cases hset : env v.name with
  | none => exact hgiven _ (.unset hset)
  | some raw =>
    cases hread : v.reader raw with
    | ok a =>
      simp only [hread]
      exact hgiven a (.set hset (Variable.reader_eq_ok_iff.mp hread))
    | error problem =>
      have h (a : v.Value) : ¬v.Reads raw a := fun ha => by
        cases hread.symm.trans (Variable.reader_eq_ok_iff.mpr ha)
      simp only [hread]
      exact .inr ⟨_, .here problem hset h, rfl⟩

theorem ends_read (env : Environment) :
    Ends env Variable.all (fun r => ∃ s, Asked env s ∧ r = s.check) (read env) := by
  refine ends_readVariable .requeueDelay fun requeue hrequeue => ?_
  refine ends_readVariable .apiTimeout fun timeout htimeout => ?_
  refine ends_readVariable .backoffMin fun min hmin => ?_
  refine ends_readVariable .backoffMax fun max hmax => ?_
  refine ends_readVariable .probeAddress fun address haddress => ?_
  refine .inl ⟨_, ⟨watches_readNamespace env, fun v => ?_⟩, rfl⟩
  cases v <;> assumption

theorem check_eq_ok_iff : s.check = .ok s' ↔ s' = s ∧ s.Consistent := by
  rw [check]
  split
  case isTrue hzero => exact ⟨nofun, fun ⟨_, h⟩ => absurd hzero h.timeout⟩
  case isFalse htimeout =>
    split
    case isTrue hbounds =>
      refine ⟨nofun, fun ⟨_, h⟩ => ?_⟩
      have ⟨_, hmin, hmax⟩ := h
      omega
    case isFalse hbounds =>
      rw [Except.ok.injEq, eq_comm]
      exact (and_iff_left ⟨htimeout, by omega, by omega⟩).symm

theorem refused_of_check {e : OperatorError} (h : Asked env s) (hcheck : s.check = .error e) :
    ∃ p, e = .invalidConfig p ∧ Refused env p := by
  rw [check] at hcheck
  split at hcheck
  case isTrue hzero => exact ⟨_, (Except.error.inj hcheck).symm, .zeroTimeout h hzero⟩
  case isFalse htimeout =>
    split at hcheck
    case isTrue hbounds =>
      exact ⟨_, (Except.error.inj hcheck).symm, .backoffBounds h htimeout (by omega)⟩
    case isFalse => cases hcheck

-- The settings are what the environment asks for if they go together. If there are none, the error
-- says what is wrong with the environment.
theorem read_exact (env : Environment) :
    (∀ s, read env = .ok s ↔ Asked env s ∧ s.Consistent) ∧
    ∀ e, read env = .error e → ∃ p, e = .invalidConfig p ∧ Refused env p := by
  obtain ⟨s, hs, hread⟩ | ⟨p, hp, hread⟩ := ends_read env
  case inl =>
    refine ⟨fun s' => ?_, fun e he => refused_of_check hs (hread.symm.trans he)⟩
    rw [hread, check_eq_ok_iff]
    constructor
    case mp =>
      rintro ⟨rfl, h⟩
      exact ⟨hs, h⟩
    case mpr =>
      rintro ⟨hs', h⟩
      obtain rfl := hs.unique hs'
      exact ⟨rfl, h⟩
  case inr =>
    refine ⟨fun s => ⟨fun h => ?_, fun ⟨hs, _⟩ => absurd hs hp.not_asked⟩, fun e he => ?_⟩
    · cases hread.symm.trans h
    · exact ⟨p, Except.error.inj (he.symm.trans hread), .unreadable hp⟩

-- A variable that is set beside blanks, a maximum alone that is below the default minimum, and one
-- more than the largest number behind a timeout that is zero.
theorem read_exact_bounds :
    ∃ env env' env'' : Environment,
      (∃ s, read env = .ok s ∧ s.backoffMaxSecs = 5 ∧ Asked env s ∧ s.Consistent) ∧
      read env' = .error (.invalidConfig (.backoffBounds 5 4)) ∧
      Refused env' (.backoffBounds 5 4) ∧
      ∃ p, read env'' = .error (.invalidConfig p) ∧ Refused env'' p ∧
        p = .unreadable "ERROR_BACKOFF_MIN_SECS" "18446744073709551616" (.numeral .tooLarge) := by
  let env : Environment := fun name => if name = "ERROR_BACKOFF_MAX_SECS" then some " +05\n" else none
  let env' : Environment := fun name => if name = "ERROR_BACKOFF_MAX_SECS" then some "4" else none
  let env'' : Environment := fun name =>
    if name = "API_TIMEOUT_SECS" then some "0"
    else if name = "ERROR_BACKOFF_MIN_SECS" then some "18446744073709551616"
    else none
  have hread : read env = .ok { backoffMaxSecs := 5 } := rfl
  have hbounds : read env' = .error (.invalidConfig (.backoffBounds 5 4)) := rfl
  have hlarge : read env'' = .error (.invalidConfig
      (.unreadable "ERROR_BACKOFF_MIN_SECS" "18446744073709551616" (.numeral .tooLarge))) := rfl
  have ⟨hasked, hconsistent⟩ := ((read_exact env).left _).mp hread
  have ⟨_, hp, hrefused⟩ := (read_exact env').right _ hbounds
  have ⟨_, hp', hrefused'⟩ := (read_exact env'').right _ hlarge
  cases hp
  cases hp'
  exact ⟨env, env', env'', ⟨_, hread, rfl, hasked, hconsistent⟩, hbounds, hrefused, _, hlarge, hrefused', rfl⟩

end KernelRollout.Settings
