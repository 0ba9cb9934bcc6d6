/-
This file models the verification codes of the Gate, and proves how far they are
safe.

A code is issued, compared and cleared by three Lua scripts over three keys of an
email: the code with its time to live, the cooldown of the next issue, and the
counter of wrong guesses. A code can be used once and only while it is the latest
one and has not expired, in every run: the key of the code holds what was issued
last, and the script that accepts it deletes it.

The number of guesses is limited by the counter, and the counter has a time to live
of its own: the first wrong guess gives it what `TTL` says the code has left. `TTL`
is rounded to the nearest second. Rounded down, the counter is gone up to half a
second before the code, and the guesses are counted from zero again. A code is
compared no more often than it should be in every run in which this rounding never
goes down.

Texts are sequences of bytes. A script runs as one step; sending the mail takes any
time, and only its failure is followed by another script.
-/

import Mathlib
import Wimi.Lib.Expiring
import Wimi.Lib.Transition

namespace Wimi.Gate

open List Option Transition Expiring Store

/-! ### Redis -/

/-- What the keys of an email hold: a code, or a number. -/
inductive CodeValue where
  | text (value : String)
  | number (value : Nat)
deriving DecidableEq, Repr

abbrev CodeStore := Store String CodeValue

def verifyKey (email name : String) : String :=
  "im:verify:\x7b" ++ email ++ "\x7d:" ++ name

def codeKey (email : String) : String := verifyKey email "code"

def cooldownKey (email : String) : String := verifyKey email "cooldown"

def attemptsKey (email : String) : String := verifyKey email "attempts"

namespace CodeStore

variable (store : CodeStore)

def setex (key : String) (seconds : Nat) (value : CodeValue) : CodeStore :=
  store.put key ⟨value, some (store.now + 1000 * seconds)⟩

def incr (key : String) : Option (Nat × CodeStore) :=
  match store.lookup key with
  | none => some (1, store.put key ⟨.number 1, none⟩)
  | some ⟨.number value, expiresAt⟩ =>
    some (value + 1, store.put key ⟨.number (value + 1), expiresAt⟩)
  | some ⟨.text _, _⟩ => none

def ttl (key : String) : Int :=
  match store.lookup key with
  | none => -2
  | some ⟨_, none⟩ => -1
  | some ⟨_, some expiresAt⟩ => ((expiresAt - store.now + 500) / 1000 : Nat)

def expire (key : String) (seconds : Nat) : CodeStore :=
  match store.lookup key with
  | none => store
  | some entry => store.put key { entry with expiresAt := some (store.now + 1000 * seconds) }

/-! ### The scripts -/

def issued (email code : String) (ttlSeconds cooldownSeconds : Int) : CodeStore :=
  delete (setex (setex store (codeKey email) ttlSeconds.toNat (.text code))
    (cooldownKey email) cooldownSeconds.toNat (.number 1)) (attemptsKey email)

def issueVerificationCode (email code : String) (ttlSeconds cooldownSeconds : Int) :
    Int × CodeStore :=
  if email = "" ∨ code = "" ∨ ttlSeconds ≤ 0 ∨ cooldownSeconds ≤ 0 then (-1, store)
  else if (store.lookup (cooldownKey email)).isSome then (0, store)
  else (1, issued store email code ttlSeconds cooldownSeconds)

/-- What the consume script does after a wrong guess: the counter, which lives as long as `TTL`
says the code does, and the end of the code at the last attempt. -/
def countWrong (email : String) (maxAttempts : Int) : CodeStore :=
  match incr store (attemptsKey email) with
  | none => store
  | some (attempts, counted) =>
    let remaining := ttl counted (codeKey email)
    let limited :=
      if attempts = 1 ∧ 0 < remaining then expire counted (attemptsKey email) remaining.toNat
      else counted
    if maxAttempts ≤ attempts then
      delete (delete limited (codeKey email)) (attemptsKey email)
    else limited

def deleteAll (email : String) : CodeStore :=
  delete (delete (delete store (codeKey email)) (attemptsKey email))
    (cooldownKey email)

def consumeVerificationCode (email code : String) (maxAttempts : Int) : Bool × CodeStore :=
  if email = "" ∨ code = "" ∨ maxAttempts ≤ 0 then (false, store)
  else
    match store.lookup (codeKey email) with
    | none => (false, store)
    | some current =>
      if current.value = .text code then (true, deleteAll store email)
      else (false, countWrong store email maxAttempts)

def clearVerificationCode (email expectedCode : String) : Bool × CodeStore :=
  if email = "" ∨ expectedCode = "" then (false, store)
  else
    match store.lookup (codeKey email) with
    | none => (false, store)
    | some current =>
      if current.value = .text expectedCode then (true, deleteAll store email)
      else (false, store)

end CodeStore

open CodeStore

/-! ### The service -/

structure VerificationConfig where
  codeTtlSeconds : Int := 180
  resendCooldownSeconds : Int := 60
  maxAttempts : Int := 5
  emailEnabled : Bool := false
  exposeCodeInResponse : Bool := false
deriving DecidableEq, Repr

def isSpace (character : Char) : Bool :=
  character ∈ [' ', '\t', '\n', '\x0b', '\x0c', '\r']

def normalizeEmail (email : String) : String :=
  String.ofList (((email.toList.dropWhile isSpace).reverse.dropWhile isSpace).reverse.map
    Char.toLower)

def isValidEmail (email : String) : Bool :=
  let text := email.toList
  decide (text ≠ [] ∧ text.length ≤ 254) &&
    text.all (fun character => character ∉ [' ', '\t', '\r', '\n', '\x7b', '\x7d']) &&
    match text.findIdx? (· = '@') with
    | none => false
    | some sign =>
      decide (sign ≠ 0 ∧ text.count '@' = 1 ∧ sign + 3 ≤ text.length) &&
        match (text.drop (sign + 2)).findIdx? (· = '.') with
        | none => false
        | some offset => sign + 2 + offset + 1 < text.length

def generateCode (drawn : Fin 1000000) : String :=
  String.ofList (List.leftpad 6 '0' (Nat.repr drawn).toList)

inductive CodeEvent where
  | issued (email code : String) (time : Nat)
  | guessed (email guess : String) (accepted : Bool) (time : Nat)
deriving DecidableEq, Repr

structure VerificationSystem where
  store : CodeStore := {}
  sending : List (String × String) := []
  events : List CodeEvent := []

/-- `RequestEmailCode` with the number it draws, the end of one of its mails, `VerifyAndConsume`,
and the time that passes between them. -/
inductive VerificationAction where
  | elapse (milliseconds : Nat)
  | requestEmailCode (rawEmail : String) (drawn : Fin 1000000)
  | emailSent (place : Nat)
  | emailFailed (place : Nat)
  | verifyAndConsume (rawEmail guess : String)
deriving DecidableEq, Repr

namespace VerificationSystem

variable (config : VerificationConfig) (system : VerificationSystem)

def requestEmailCode (rawEmail : String) (drawn : Fin 1000000) : VerificationSystem :=
  let email := normalizeEmail rawEmail
  if ¬ isValidEmail email then system
  else if ¬ config.emailEnabled ∧ ¬ config.exposeCodeInResponse then system
  else
    match issueVerificationCode system.store email (generateCode drawn)
      config.codeTtlSeconds config.resendCooldownSeconds with
    | (1, store) =>
      { store := store
        sending :=
          if config.emailEnabled then system.sending ++ [(email, generateCode drawn)]
          else system.sending
        events := .issued email (generateCode drawn) system.store.now :: system.events }
    | _ => system

def compares (email guess : String) : Bool :=
  isValidEmail email ∧ guess.length = 6 ∧ 0 < config.maxAttempts ∧
    (system.store.lookup (codeKey email)).isSome

def verifyAndConsume (rawEmail guess : String) : Bool × VerificationSystem :=
  let email := normalizeEmail rawEmail
  if ¬ isValidEmail email ∨ guess.length ≠ 6 then (false, system)
  else
    let consumed := consumeVerificationCode system.store email guess config.maxAttempts
    (consumed.1,
      { system with
        store := consumed.2
        events :=
          if system.compares config email guess then
            .guessed email guess consumed.1 system.store.now :: system.events
          else system.events })

end VerificationSystem

open VerificationSystem

def verificationStep (config : VerificationConfig) (system : VerificationSystem) :
    VerificationAction → Option VerificationSystem
  | .elapse milliseconds => some { system with store := system.store.elapse milliseconds }
  | .requestEmailCode rawEmail drawn => some (system.requestEmailCode config rawEmail drawn)
  | .emailSent place =>
    if place < system.sending.length then
      some { system with sending := system.sending.eraseIdx place }
    else none
  | .emailFailed place =>
    match system.sending[place]? with
    | none => none
    | some (email, code) =>
      some { system with
        store := (clearVerificationCode system.store email code).2
        sending := system.sending.eraseIdx place }
  | .verifyAndConsume rawEmail guess => some (system.verifyAndConsume config rawEmail guess).2

/-! ### What is asked of the codes -/

def lastIssued (email : String) : List CodeEvent → Option (String × Nat)
  | [] => none
  | .issued issuedTo code time :: earlier =>
    if issuedTo = email then some (code, time) else lastIssued email earlier
  | .guessed _ _ _ _ :: earlier => lastIssued email earlier

def comparisons (email : String) : List CodeEvent → Nat
  | [] => 0
  | .issued issuedTo _ _ :: earlier => if issuedTo = email then 0 else comparisons email earlier
  | .guessed guessedFor _ _ _ :: earlier =>
    comparisons email earlier + if guessedFor = email then 1 else 0

def acceptances (email : String) : List CodeEvent → Nat
  | [] => 0
  | .issued issuedTo _ _ :: earlier => if issuedTo = email then 0 else acceptances email earlier
  | .guessed guessedFor _ accepted _ :: earlier =>
    acceptances email earlier + if guessedFor = email ∧ accepted then 1 else 0

/-- Every accepted guess is the code issued last, before its time to live has elapsed. -/
def AcceptsLatest (config : VerificationConfig) (events : List CodeEvent) : Prop :=
  ∀ email guess time earlier, .guessed email guess true time :: earlier <:+ events →
    ∃ issuedAt, lastIssued email earlier = some (guess, issuedAt) ∧
      time < issuedAt + 1000 * config.codeTtlSeconds.toNat

/-- At every time, the code issued last to an email has been accepted at most once. -/
def AcceptsOnce (events : List CodeEvent) : Prop :=
  ∀ email earlier, earlier <:+ events → acceptances email earlier ≤ 1

/-- At every time, the code issued last to an email has been compared with at most this many
guesses. -/
def ComparesLimited (config : VerificationConfig) (events : List CodeEvent) : Prop :=
  ∀ email earlier, earlier <:+ events → comparisons email earlier ≤ config.maxAttempts.toNat

/-- A counter that starts with this much of the code left does not end before the code: `TTL`
rounds up, or is zero and sets no end at all. -/
def counterLasts (remaining : Nat) : Bool :=
  remaining < 500 ∨ remaining % 1000 = 0 ∨ 500 ≤ remaining % 1000

/-- If this guess starts the counter of a code, it is a guess after which the counter lasts. -/
def VerificationSystem.startsLasting (system : VerificationSystem) (email guess : String) : Bool :=
  match system.store.lookup (codeKey email), system.store.lookup (attemptsKey email) with
  | some ⟨value, some expiresAt⟩, none =>
    value = .text guess || counterLasts (expiresAt - system.store.now)
  | _, _ => true

/-- A wrong guess that starts a counter comes when the rounding does not go down. -/
def CounterLasts (config : VerificationConfig) (system : VerificationSystem) :
    VerificationAction → Prop
  | .verifyAndConsume rawEmail guess =>
    system.compares config (normalizeEmail rawEmail) guess = true →
      system.startsLasting (normalizeEmail rawEmail) guess = true
  | _ => True

instance (config : VerificationConfig) (system : VerificationSystem) :
    ∀ action, Decidable (CounterLasts config system action)
  | .verifyAndConsume _ _ => inferInstanceAs (Decidable (_ → _))
  | .elapse _ | .requestEmailCode _ _ | .emailSent _ | .emailFailed _ => isTrue trivial

/-! ### The keys of an email -/

theorem verifyKey_inj {email other name : String} :
    verifyKey email name = verifyKey other name ↔ email = other := by
  rw [verifyKey, verifyKey, String.append_left_inj, String.append_left_inj,
    String.append_right_inj]

theorem verifyKey_ne {email other name otherName : String} (named : name.toList ≠ [])
    (different : name.toList.getLast? ≠ otherName.toList.getLast?)
    (otherNamed : otherName.toList ≠ []) : verifyKey email name ≠ verifyKey other otherName := by
  intro same
  have last := congrArg (fun key => key.toList.getLast?) same
  simp only [verifyKey, String.toList_append] at last
  rw [getLast?_append_of_ne_nil _ named, getLast?_append_of_ne_nil _ otherNamed] at last
  exact different last

@[simp]
theorem codeKey_inj {email other : String} : codeKey email = codeKey other ↔ email = other :=
  verifyKey_inj

@[simp]
theorem attemptsKey_inj {email other : String} :
    attemptsKey email = attemptsKey other ↔ email = other :=
  verifyKey_inj

@[simp]
theorem codeKey_ne_attemptsKey (email other : String) : codeKey email ≠ attemptsKey other :=
  verifyKey_ne (by decide) (by decide) (by decide)

@[simp]
theorem attemptsKey_ne_codeKey (email other : String) : attemptsKey email ≠ codeKey other :=
  (codeKey_ne_attemptsKey other email).symm

@[simp]
theorem codeKey_ne_cooldownKey (email other : String) : codeKey email ≠ cooldownKey other :=
  verifyKey_ne (by decide) (by decide) (by decide)

@[simp]
theorem attemptsKey_ne_cooldownKey (email other : String) :
    attemptsKey email ≠ cooldownKey other :=
  verifyKey_ne (by decide) (by decide) (by decide)

structure SameKeys (email : String) (before after : CodeStore) : Prop where
  code : after.entries (codeKey email) = before.entries (codeKey email)
  attempts : after.entries (attemptsKey email) = before.entries (attemptsKey email)

theorem SameKeys.refl (email : String) (store : CodeStore) : SameKeys email store store :=
  ⟨rfl, rfl⟩

theorem SameKeys.trans {email : String} {first second third : CodeStore}
    (early : SameKeys email first second) (late : SameKeys email second third) :
    SameKeys email first third :=
  ⟨late.code.trans early.code, late.attempts.trans early.attempts⟩

/-! ### What the scripts do to the keys -/

variable {entry : Entry CodeValue} {expiresAt : Option Nat} {maxAttempts : Int}

namespace CodeStore

variable {store : CodeStore} {email : String}

theorem sameKeys_deleteAll {other : String} (different : other ≠ email) :
    SameKeys other store (deleteAll store email) := by
  constructor <;> simp [deleteAll, different]

theorem deleteAll_code : (deleteAll store email).entries (codeKey email) = none := by
  simp [deleteAll]

section Issued

variable {code : String} {ttlSeconds cooldownSeconds : Int}

theorem sameKeys_issued {other : String} (different : other ≠ email) :
    SameKeys other store (issued store email code ttlSeconds cooldownSeconds) := by
  constructor <;> simp [issued, setex, different]

theorem issued_code :
    (issued store email code ttlSeconds cooldownSeconds).entries (codeKey email) =
      some ⟨.text code, some (store.now + 1000 * ttlSeconds.toNat)⟩ := by
  simp [issued, setex]

theorem held_of_issued {other : String}
    (held : (issued store email code ttlSeconds cooldownSeconds).entries (codeKey other) =
      some entry) :
    other = email ∧ entry = ⟨.text code, some (store.now + 1000 * ttlSeconds.toNat)⟩ ∨
      other ≠ email ∧ store.entries (codeKey other) = some entry := by
  by_cases same : other = email
  · grind [issued_code]
  · rw [(sameKeys_issued same).code] at held
    exact .inr ⟨same, held⟩

theorem issued_attempts :
    (issued store email code ttlSeconds cooldownSeconds).entries (attemptsKey email) = none := by
  simp [issued]

end Issued

theorem held_of_deleteAll {other : String}
    (held : (deleteAll store email).entries (codeKey other) = some entry) :
    other ≠ email ∧ store.entries (codeKey other) = some entry := by
  by_cases same : other = email
  · subst same
    rw [deleteAll_code] at held
    cases held
  · rw [(sameKeys_deleteAll same).code] at held
    exact ⟨same, held⟩

structure TouchesCounter (email : String) (before after : CodeStore) : Prop where
  now : after.now = before.now
  code : after.entries (codeKey email) = before.entries (codeKey email) ∨
    after.entries (codeKey email) = none
  others : ∀ other, other ≠ email → SameKeys other before after

theorem touchesCounter_put (entry : Entry CodeValue) :
    TouchesCounter email store (store.put (attemptsKey email) entry) :=
  ⟨rfl, .inl (by simp), fun _ different => ⟨by simp, by simp [different]⟩⟩

theorem touchesCounter_deletes :
    TouchesCounter email store
      (delete (delete store (codeKey email)) (attemptsKey email)) :=
  ⟨rfl, .inr (by simp), fun _ different => ⟨by simp [different], by simp [different]⟩⟩

theorem TouchesCounter.trans {first second third : CodeStore}
    (early : TouchesCounter email first second) (late : TouchesCounter email second third) :
    TouchesCounter email first third := by
  refine ⟨late.now.trans early.now, ?_, fun other different =>
    (early.others other different).trans (late.others other different)⟩
  rcases late.code with same | gone
  · rw [same]
    exact early.code
  · exact .inr gone

theorem incr_of_absent {key : String} (absent : store.lookup key = none) :
    incr store key = some (1, store.put key ⟨.number 1, none⟩) := by
  simp only [incr, absent]

theorem incr_of_number {key : String} {value : Nat}
    (found : store.lookup key = some ⟨.number value, expiresAt⟩) :
    incr store key = some (value + 1, store.put key ⟨.number (value + 1), expiresAt⟩) := by
  simp only [incr, found]

theorem touchesCounter_incr {attempts : Nat} {counted : CodeStore}
    (taken : incr store (attemptsKey email) = some (attempts, counted)) :
    TouchesCounter email store counted := by
  simp only [incr] at taken
  split at taken
  · cases taken
    exact touchesCounter_put _
  · cases taken
    exact touchesCounter_put _
  · cases taken

theorem touchesCounter_expire (seconds : Nat) :
    TouchesCounter email store (expire store (attemptsKey email) seconds) := by
  simp only [expire]
  split
  · exact ⟨rfl, .inl rfl, fun other _ => SameKeys.refl other store⟩
  · exact touchesCounter_put _

theorem touchesCounter_countWrong (store : CodeStore) (email : String) (maxAttempts : Int) :
    TouchesCounter email store (countWrong store email maxAttempts) := by
  simp only [countWrong]
  split
  · exact ⟨rfl, .inl rfl, fun other _ => SameKeys.refl other store⟩
  rename_i attempts counted taken
  have limited : TouchesCounter email store
      (if attempts = 1 ∧ 0 < ttl counted (codeKey email) then
        expire counted (attemptsKey email) (ttl counted (codeKey email)).toNat
      else counted) := by
    split
    · exact (touchesCounter_incr taken).trans (touchesCounter_expire _)
    · exact touchesCounter_incr taken
  split
  · exact limited.trans touchesCounter_deletes
  · exact limited

theorem TouchesCounter.held {before after : CodeStore} (touches : TouchesCounter email before after)
    {other : String} (held : after.entries (codeKey other) = some entry) :
    before.entries (codeKey other) = some entry := by
  by_cases same : other = email
  · subst same
    rcases touches.code with kept | gone
    · exact kept.symm.trans held
    · rw [gone] at held
      cases held
  · exact (touches.others other same).code.symm.trans held

theorem countWrong_next {value : Nat}
    (found : store.lookup (attemptsKey email) = some ⟨.number value, expiresAt⟩)
    (counting : 0 < value) (below : ¬ maxAttempts ≤ (value + 1 : Nat)) :
    countWrong store email maxAttempts =
      store.put (attemptsKey email) ⟨.number (value + 1), expiresAt⟩ := by
  have notFirst : ¬ (value + 1 = 1 ∧ 0 < ttl (store.put (attemptsKey email)
      ⟨.number (value + 1), expiresAt⟩) (codeKey email)) := fun first => by omega
  simp only [countWrong, incr_of_number found, if_neg below, if_neg notFirst]

theorem countWrong_first {value : CodeValue} {codeEnd : Nat}
    (absent : store.lookup (attemptsKey email) = none)
    (found : store.lookup (codeKey email) = some ⟨value, some codeEnd⟩)
    (lasts : counterLasts (codeEnd - store.now) = true) (below : ¬ maxAttempts ≤ (1 : Nat)) :
    ∃ expiresAt : Option Nat,
      countWrong store email maxAttempts =
          store.put (attemptsKey email) ⟨.number 1, expiresAt⟩ ∧
        ∀ time, expiresAt = some time → codeEnd ≤ time := by
  have counted := incr_of_absent absent
  have stillFound : (store.put (attemptsKey email) ⟨.number 1, none⟩).lookup (codeKey email) =
      some ⟨value, some codeEnd⟩ := by
    rw [Store.lookup, Store.entries_put, if_neg (codeKey_ne_attemptsKey email email)]
    exact found
  have remaining : ttl (store.put (attemptsKey email) ⟨.number 1, none⟩) (codeKey email) =
      ((codeEnd - store.now + 500) / 1000 : Nat) := by
    simp only [ttl, stillFound, Store.now_put]
  have started : (store.put (attemptsKey email) ⟨.number 1, none⟩).lookup (attemptsKey email) =
      some ⟨.number 1, none⟩ := Store.lookup_eq_some.mpr ⟨by simp, rfl⟩
  by_cases positive : 0 < (codeEnd - store.now + 500) / 1000
  · refine ⟨some (store.now + 1000 * ((codeEnd - store.now + 500) / 1000)), ?_, ?_⟩
    · simp only [countWrong, counted, remaining, if_neg below, true_and,
        if_pos (Int.natCast_pos.mpr positive), expire, started, Store.put_put, Store.now_put,
        Int.toNat_natCast]
    rintro time ⟨⟩
    have rounding := of_decide_eq_true lasts
    omega
  have endless : ¬ (0 : Int) < ((codeEnd - store.now + 500) / 1000 : Nat) :=
    fun later => positive (Int.natCast_pos.mp later)
  refine ⟨none, ?_, fun time wrong => by cases wrong⟩
  simp only [countWrong, counted, remaining, if_neg below, true_and, if_neg endless]

theorem countWrong_last {attempts : Nat} {counted : CodeStore}
    (taken : incr store (attemptsKey email) = some (attempts, counted))
    (last : maxAttempts ≤ attempts) :
    (countWrong store email maxAttempts).entries (codeKey email) = none := by
  simp [countWrong, taken, if_pos last]

end CodeStore

/-! ### What a step does -/

/-- The systems that a step can lead to. -/
inductive Move (config : VerificationConfig) (before : VerificationSystem) :
    VerificationAction → VerificationSystem → Prop
  | quiet {action : VerificationAction} {store : CodeStore} (sending : List (String × String))
      (order : before.store.now ≤ store.now) (entries : store.entries = before.store.entries) :
      Move config before action ⟨store, sending, before.events⟩
  | issued {action : VerificationAction} (email code : String) (sending : List (String × String)) :
      Move config before action
        ⟨issued before.store email code config.codeTtlSeconds config.resendCooldownSeconds, sending,
          .issued email code before.store.now :: before.events⟩
  | cleared {action : VerificationAction} (email : String) (sending : List (String × String)) :
      Move config before action ⟨deleteAll before.store email, sending, before.events⟩
  | accepted {action : VerificationAction} (email guess : String) (entry : Entry CodeValue)
      (found : before.store.lookup (codeKey email) = some entry)
      (right : entry.value = .text guess) (limit : 0 < config.maxAttempts) :
      Move config before action
        ⟨deleteAll before.store email, before.sending,
          .guessed email guess true before.store.now :: before.events⟩
  | wrong {action : VerificationAction} (email guess : String) (entry : Entry CodeValue)
      (lasts : CounterLasts config before action → before.startsLasting email guess = true)
      (found : before.store.lookup (codeKey email) = some entry)
      (different : entry.value ≠ .text guess) (limit : 0 < config.maxAttempts) :
      Move config before action
        ⟨countWrong before.store email config.maxAttempts, before.sending,
          .guessed email guess false before.store.now :: before.events⟩

section Moves

variable {config : VerificationConfig} {before after : VerificationSystem}

theorem Move.refl (config : VerificationConfig) (system : VerificationSystem)
    (action : VerificationAction) : Move config system action system :=
  .quiet system.sending le_rfl rfl

theorem move_requestEmailCode (rawEmail : String) (drawn : Fin 1000000) :
    Move config before (.requestEmailCode rawEmail drawn)
      (before.requestEmailCode config rawEmail drawn) := by
  simp only [requestEmailCode]
  split
  · exact Move.refl config before _
  split
  · exact Move.refl config before _
  split
  · rename_i store taken
    simp only [issueVerificationCode] at taken
    split at taken
    · cases taken
    split at taken
    · cases taken
    · cases taken
      exact .issued _ _ _
  · exact Move.refl config before _

theorem move_emailFailed (email code : String) (sending : List (String × String))
    (action : VerificationAction) :
    Move config before action
      { before with
        store := (clearVerificationCode before.store email code).2
        sending } := by
  simp only [clearVerificationCode]
  split
  · exact .quiet sending le_rfl rfl
  split
  · exact .quiet sending le_rfl rfl
  split
  · exact .cleared email sending
  · exact .quiet sending le_rfl rfl

theorem move_verifyAndConsume (rawEmail guess : String) :
    Move config before (.verifyAndConsume rawEmail guess)
      (before.verifyAndConsume config rawEmail guess).2 := by
  simp only [verifyAndConsume]
  split
  · exact Move.refl config before _
  rename_i passes
  obtain ⟨valid, length⟩ := not_or.mp passes
  rw [not_not] at valid length
  have guessed : guess ≠ "" := fun empty => absurd length (by rw [empty]; decide)
  have named : normalizeEmail rawEmail ≠ "" := fun empty => absurd valid (by rw [empty]; decide)
  by_cases limit : 0 < config.maxAttempts
  · have passed : ¬ (normalizeEmail rawEmail = "" ∨ guess = "" ∨ config.maxAttempts ≤ 0) :=
      not_or.mpr ⟨named, not_or.mpr ⟨guessed, Int.not_le.mpr limit⟩⟩
    cases found : before.store.lookup (codeKey (normalizeEmail rawEmail)) with
    | none =>
      have silent : before.compares config (normalizeEmail rawEmail) guess = false :=
        decide_eq_false fun holds => by rw [found] at holds; cases holds.2.2.2
      simp only [consumeVerificationCode, if_neg passed, found, silent]
      exact .quiet before.sending le_rfl rfl
    | some entry =>
      have compares : before.compares config (normalizeEmail rawEmail) guess = true :=
        decide_eq_true ⟨valid, length, limit, isSome_iff_exists.mpr ⟨entry, found⟩⟩
      by_cases right : entry.value = .text guess
      · simp only [consumeVerificationCode, if_neg passed, found, compares,
          if_pos right, if_true]
        exact .accepted _ guess entry found right limit
      simp only [consumeVerificationCode, if_neg passed, found, compares,
        if_neg right, if_true]
      exact .wrong _ guess entry (fun lasts => lasts compares) found right limit
  have refused : normalizeEmail rawEmail = "" ∨ guess = "" ∨ config.maxAttempts ≤ 0 :=
    .inr (.inr (Int.not_lt.mp limit))
  have silent : before.compares config (normalizeEmail rawEmail) guess = false :=
    decide_eq_false fun holds => limit holds.2.2.1
  simp only [consumeVerificationCode, if_pos refused, silent, Bool.false_eq_true,
    if_false]
  exact .quiet before.sending le_rfl rfl

theorem verificationStep_move {action : VerificationAction}
    (taken : verificationStep config before action = some after) :
    Move config before action after := by
  cases action with
  | elapse milliseconds =>
    cases taken
    exact .quiet before.sending (Nat.le_add_right _ _) rfl
  | requestEmailCode rawEmail drawn =>
    obtain rfl : before.requestEmailCode config rawEmail drawn = after := some.inj taken
    exact move_requestEmailCode rawEmail drawn
  | emailSent place =>
    obtain ⟨_, ⟨⟩⟩ := ite_none_right_eq_some.mp taken
    exact .quiet _ le_rfl rfl
  | emailFailed place => grind [verificationStep, move_emailFailed]
  | verifyAndConsume rawEmail guess =>
    obtain rfl : (before.verifyAndConsume config rawEmail guess).2 = after :=
      some.inj taken
    exact move_verifyAndConsume rawEmail guess

end Moves

/-! ### Counting over the events -/

/-- Whom an event is about. -/
def CodeEvent.email : CodeEvent → String
  | .issued email _ _ => email
  | .guessed email _ _ _ => email

section Events

variable {email other guess : String} {time : Nat} {accepted : Bool} {event : CodeEvent}
  {events : List CodeEvent}

theorem lastIssued_cons_other (different : other ≠ event.email) :
    lastIssued other (event :: events) = lastIssued other events := by
  cases event with
  | issued email code time => exact if_neg different.symm
  | guessed email guess accepted time => rfl

theorem comparisons_cons_other (different : other ≠ event.email) :
    comparisons other (event :: events) = comparisons other events := by
  cases event with
  | issued email code time => exact if_neg different.symm
  | guessed email guess accepted time =>
    rw [comparisons, if_neg fun same => different same.symm, Nat.add_zero]

theorem acceptances_cons_other (different : other ≠ event.email) :
    acceptances other (event :: events) = acceptances other events := by
  cases event with
  | issued email code time => exact if_neg different.symm
  | guessed email guess accepted time =>
    rw [acceptances, if_neg fun holds => different holds.1.symm, Nat.add_zero]

theorem comparisons_guessed_self :
    comparisons email (.guessed email guess accepted time :: events) =
      comparisons email events + 1 := by
  rw [comparisons, if_pos rfl]

theorem acceptances_wrong :
    acceptances other (.guessed email guess false time :: events) = acceptances other events := by
  rw [acceptances, if_neg fun holds => Bool.false_ne_true holds.2, Nat.add_zero]

variable {config : VerificationConfig}

theorem AcceptsLatest.cons (latest : AcceptsLatest config events)
    (head : ∀ email guess time, event = .guessed email guess true time →
      ∃ issuedAt, lastIssued email events = some (guess, issuedAt) ∧
        time < issuedAt + 1000 * config.codeTtlSeconds.toNat) :
    AcceptsLatest config (event :: events) := by
  intro email guess time earlier occurs
  rcases suffix_cons_iff.mp occurs with isHead | inTail
  · grind
  · exact latest email guess time earlier inTail

/-- A count that only the events of an email raise stays bounded if it does for the email of a new
event. -/
theorem bounded_cons {count : String → List CodeEvent → Nat} {bound : Nat}
    (bounded : ∀ email earlier, earlier <:+ events → count email earlier ≤ bound)
    (others : ∀ {other}, other ≠ event.email → count other (event :: events) = count other events)
    (own : count event.email (event :: events) ≤ bound) :
    ∀ email earlier, earlier <:+ event :: events → count email earlier ≤ bound := by
  intro email earlier occurs
  rcases suffix_cons_iff.mp occurs with rfl | inTail
  · by_cases same : email = event.email
    · exact same ▸ own
    · rw [others same]
      exact bounded email events suffix_rfl
  · exact bounded email earlier inTail

end Events

/-! ### A code is used once, while it is the latest -/

structure HoldsLatest (config : VerificationConfig) (events : List CodeEvent) (email : String)
    (entry : Entry CodeValue) : Prop where
  issued : ∃ code issuedAt, lastIssued email events = some (code, issuedAt) ∧
    entry = ⟨.text code, some (issuedAt + 1000 * config.codeTtlSeconds.toNat)⟩
  unused : acceptances email events = 0

structure CodesSound (config : VerificationConfig) (system : VerificationSystem) : Prop where
  stored : ∀ email entry, system.store.entries (codeKey email) = some entry →
    HoldsLatest config system.events email entry
  latest : AcceptsLatest config system.events
  once : AcceptsOnce system.events

section Sound

variable {config : VerificationConfig} {before after : VerificationSystem}
  {action : VerificationAction}

section

variable (sound : CodesSound config before)
include sound

theorem codesSound_issued (email code : String) (sending : List (String × String)) :
    CodesSound config
      ⟨issued before.store email code config.codeTtlSeconds config.resendCooldownSeconds, sending,
        .issued email code before.store.now :: before.events⟩ where
  stored other entry held := by
    obtain ⟨rfl, rfl⟩ | ⟨different, heldBefore⟩ := held_of_issued held
    · exact ⟨⟨code, _, if_pos rfl, rfl⟩, if_pos rfl⟩
    obtain ⟨⟨code, issuedAt, isLast, equal⟩, unused⟩ := sound.stored other entry heldBefore
    exact ⟨⟨code, issuedAt, (lastIssued_cons_other different).trans isLast, equal⟩,
      (acceptances_cons_other different).trans unused⟩
  latest := sound.latest.cons fun _ _ _ wrong => by cases wrong
  once := bounded_cons sound.once acceptances_cons_other ((if_pos rfl).trans_le (Nat.zero_le 1))

theorem codesSound_accepted {email guess : String}
    (found : before.store.lookup (codeKey email) = some entry)
    (right : entry.value = .text guess) :
    CodesSound config
      ⟨deleteAll before.store email, before.sending,
        .guessed email guess true before.store.now :: before.events⟩ := by
  obtain ⟨held, alive⟩ := lookup_eq_some.mp found
  obtain ⟨⟨code, issuedAt, isLast, rfl⟩, unused⟩ := sound.stored email entry held
  obtain rfl : code = guess := CodeValue.text.inj right
  refine ⟨fun other entry heldAfter => ?_, sound.latest.cons ?_,
    bounded_cons sound.once acceptances_cons_other ?_⟩
  · obtain ⟨different, heldBefore⟩ := held_of_deleteAll heldAfter
    obtain ⟨issued, unusedOther⟩ := sound.stored other entry heldBefore
    exact ⟨issued, (acceptances_cons_other different).trans unusedOther⟩
  · rintro _ _ _ ⟨⟩
    exact ⟨issuedAt, isLast, of_decide_eq_true alive⟩
  · rw [CodeEvent.email, acceptances, if_pos ⟨rfl, rfl⟩, unused]

theorem codesSound_wrong (email guess : String) :
    CodesSound config
      ⟨countWrong before.store email config.maxAttempts, before.sending,
        .guessed email guess false before.store.now :: before.events⟩ where
  stored other entry held := by
    obtain ⟨issued, unused⟩ := sound.stored other entry
      ((touchesCounter_countWrong before.store email config.maxAttempts).held held)
    exact ⟨issued, acceptances_wrong.trans unused⟩
  latest := sound.latest.cons fun _ _ _ wrong => by cases wrong
  once := bounded_cons sound.once acceptances_cons_other
    (acceptances_wrong.trans_le (sound.once _ _ suffix_rfl))

theorem codesSound_move (move : Move config before action after) : CodesSound config after := by
  cases move with
  | quiet sending order entries =>
    refine ⟨?_, sound.latest, sound.once⟩
    rw [entries]
    exact sound.stored
  | issued email code sending => exact codesSound_issued sound email code sending
  | cleared email sending =>
    exact ⟨fun other entry held => sound.stored other entry (held_of_deleteAll held).2,
      sound.latest, sound.once⟩
  | accepted email guess entry found right limit => exact codesSound_accepted sound found right
  | wrong email guess entry lasts found different limit => exact codesSound_wrong sound email guess

end

theorem codesSound_new (config : VerificationConfig) : CodesSound config {} := by
  refine ⟨fun _ _ held => (by cases held), fun _ _ _ _ occurs => ?_, fun _ _ occurs => ?_⟩
  · cases suffix_nil.mp occurs
  · cases suffix_nil.mp occurs
    exact Nat.zero_le 1

end Sound

/-! ### The guesses a code is compared with -/

def Counted (config : VerificationConfig) (system : VerificationSystem) (email : String)
    (entry : Entry CodeValue) : Prop :=
  comparisons email system.events = 0 ∧
      system.store.entries (attemptsKey email) = none ∨
    ∃ expiresAt, system.store.entries (attemptsKey email) =
        some ⟨.number (comparisons email system.events), expiresAt⟩ ∧
      0 < comparisons email system.events ∧
      comparisons email system.events < config.maxAttempts.toNat ∧
      ∀ time, expiresAt = some time → ∃ codeEnd, entry.expiresAt = some codeEnd ∧ codeEnd ≤ time

structure GuessesCounted (config : VerificationConfig) (system : VerificationSystem) : Prop where
  counted : ∀ email entry, system.store.entries (codeKey email) = some entry →
    entry.aliveAt system.store.now = true → Counted config system email entry
  limited : ComparesLimited config system.events

section Counting

variable {config : VerificationConfig} {before after : VerificationSystem}
  {action : VerificationAction} {email : String}

theorem Counted.other (counted : Counted config before email entry)
    (same : after.store.entries (attemptsKey email) = before.store.entries (attemptsKey email))
    (events : comparisons email after.events = comparisons email before.events) :
    Counted config after email entry := by
  rw [Counted, same, events]
  exact counted

theorem Counted.comparisons_lt (counted : Counted config before email entry)
    (limit : 0 < config.maxAttempts) :
    comparisons email before.events < config.maxAttempts.toNat := by
  rcases counted with ⟨zero, _⟩ | ⟨_, _, _, below, _⟩
  · rw [zero]
    exact Int.lt_toNat.mpr limit
  · exact below

theorem limited_guessed {guess : String} {accepted : Bool} (sound : GuessesCounted config before)
    (found : before.store.lookup (codeKey email) = some entry) (limit : 0 < config.maxAttempts)
    (time : Nat) :
    ComparesLimited config (.guessed email guess accepted time :: before.events) := by
  obtain ⟨held, alive⟩ := lookup_eq_some.mp found
  refine bounded_cons sound.limited comparisons_cons_other ?_
  rw [CodeEvent.email, comparisons_guessed_self]
  exact (sound.counted email entry held alive).comparisons_lt limit

theorem lookup_attempts {value : CodeValue}
    (counter : before.store.entries (attemptsKey email) = some ⟨value, expiresAt⟩)
    (alive : entry.aliveAt before.store.now = true) (lasts : ∀ time, expiresAt = some time →
      ∃ codeEnd, entry.expiresAt = some codeEnd ∧ codeEnd ≤ time) :
    before.store.lookup (attemptsKey email) = some ⟨value, expiresAt⟩ := by
  refine lookup_eq_some.mpr ⟨counter, ?_⟩
  cases expiresAt with
  | none => rfl
  | some time =>
    obtain ⟨codeEnd, ends, order⟩ := lasts time rfl
    simp only [Entry.aliveAt, ends, decide_eq_true_eq] at alive ⊢
    exact alive.trans_le order

theorem counted_wrong {guess code : String} {codeEnd : Nat}
    (counted : Counted config before email ⟨.text code, some codeEnd⟩)
    (lasts : before.startsLasting email guess = true)
    (found : before.store.lookup (codeKey email) = some ⟨.text code, some codeEnd⟩)
    (different : CodeValue.text code ≠ .text guess)
    (kept : (countWrong before.store email config.maxAttempts).entries
      (codeKey email) ≠ none) :
    Counted config
      ⟨countWrong before.store email config.maxAttempts, before.sending,
        .guessed email guess false before.store.now :: before.events⟩
      email ⟨.text code, some codeEnd⟩ := by
  rw [Counted, comparisons_guessed_self]
  refine .inr ?_
  rcases counted with ⟨zero, absent⟩ | ⟨expiresAt, counter, positive, below, lastsLong⟩
  · have missing : before.store.lookup (attemptsKey email) = none := by
      rw [Store.lookup, absent, filter_none]
    have started : counterLasts (codeEnd - before.store.now) = true := by
      simp only [startsLasting, found, missing, Bool.or_eq_true,
        decide_eq_true_eq] at lasts
      exact lasts.resolve_left different
    have more : ¬ config.maxAttempts ≤ (1 : Nat) := fun last =>
      kept (countWrong_last (incr_of_absent missing) last)
    obtain ⟨expiresAt, counts, lastsLong⟩ := countWrong_first missing found started more
    refine ⟨expiresAt, ?_, Nat.succ_pos _, ?_, fun time ends => ⟨codeEnd, rfl, lastsLong time ends⟩⟩
    · rw [counts, Store.entries_put, if_pos rfl, zero]
    · omega
  have there := lookup_attempts counter (Store.lookup_eq_some.mp found).2 lastsLong
  have more : ¬ config.maxAttempts ≤ (comparisons email before.events + 1 : Nat) := fun last =>
    kept (countWrong_last (incr_of_number there) last)
  refine ⟨expiresAt, ?_, Nat.succ_pos _, ?_, lastsLong⟩
  · rw [countWrong_next there positive more, Store.entries_put, if_pos rfl]
  · omega

theorem guessesCounted_move (codes : CodesSound config before)
    (sound : GuessesCounted config before) (lasts : CounterLasts config before action)
    (move : Move config before action after) : GuessesCounted config after := by
  cases move with
  | quiet sending order entries =>
    refine ⟨fun email entry held alive => ?_, sound.limited⟩
    rw [entries] at held
    refine (sound.counted email entry held (Entry.aliveAt_of_le order alive)).other ?_ rfl
    rw [entries]
  | issued email code sending =>
    refine ⟨fun other entry held alive => ?_,
      bounded_cons sound.limited comparisons_cons_other ((if_pos rfl).trans_le (Nat.zero_le _))⟩
    obtain ⟨rfl, rfl⟩ | ⟨different, heldBefore⟩ := held_of_issued held
    · exact .inl ⟨if_pos rfl, issued_attempts⟩
    exact (sound.counted other entry heldBefore alive).other
      (sameKeys_issued different).attempts (comparisons_cons_other different)
  | cleared email sending =>
    refine ⟨fun other entry held alive => ?_, sound.limited⟩
    obtain ⟨different, heldBefore⟩ := held_of_deleteAll held
    exact (sound.counted other entry heldBefore alive).other
      (sameKeys_deleteAll different).attempts rfl
  | accepted email guess entry found right limit =>
    refine ⟨fun other otherEntry held alive => ?_, limited_guessed sound found limit _⟩
    obtain ⟨different, heldBefore⟩ := held_of_deleteAll held
    exact (sound.counted other otherEntry heldBefore alive).other
      (sameKeys_deleteAll different).attempts (comparisons_cons_other different)
  | wrong email guess entry starts found different limit =>
    have touches := touchesCounter_countWrong before.store email config.maxAttempts
    refine ⟨fun other otherEntry held alive => ?_, limited_guessed sound found limit _⟩
    rw [touches.now] at alive
    have heldBefore := touches.held held
    by_cases same : other = email
    · subst same
      obtain ⟨⟨code, issuedAt, _, rfl⟩, _⟩ := codes.stored _ otherEntry heldBefore
      obtain rfl : _ = entry := some.inj
        ((lookup_eq_some.mpr ⟨heldBefore, alive⟩).symm.trans found)
      refine counted_wrong (sound.counted _ _ heldBefore alive) (starts lasts) found different ?_
      rw [held]
      exact some_ne_none _
    · exact (sound.counted other otherEntry heldBefore alive).other
        (touches.others other same).attempts (comparisons_cons_other same)

theorem guessesCounted_new (config : VerificationConfig) : GuessesCounted config {} := by
  refine ⟨fun _ _ held => (by cases held), fun _ _ occurs => ?_⟩
  cases suffix_nil.mp occurs
  exact Nat.zero_le _

end Counting

/-! ### Runs -/

/-- In every run, an accepted guess is the latest code before its time to live has elapsed, and
no code is accepted twice. If no counter is started when `TTL` rounds down, no code is compared
with more guesses than allowed. -/
theorem verification_codes_safe (config : VerificationConfig)
    (actions : List VerificationAction) (system : VerificationSystem)
    (taken : run (verificationStep config) {} actions = some system) :
    AcceptsLatest config system.events ∧ AcceptsOnce system.events ∧
      (Along (verificationStep config) (CounterLasts config) {} actions →
        ComparesLimited config system.events) := by
  have sound : CodesSound config system :=
    run_invariant (CodesSound config)
      (fun _ _ _ kept step => codesSound_move kept (verificationStep_move step))
      (codesSound_new config) taken
  refine ⟨sound.latest, sound.once, fun along => ?_⟩
  have counted : CodesSound config system ∧ GuessesCounted config system :=
    run_invariant_along
      (fun state => CodesSound config state ∧ GuessesCounted config state) (CounterLasts config)
      (fun _ _ _ kept lasts step =>
        ⟨codesSound_move kept.1 (verificationStep_move step),
          guessesCounted_move kept.1 kept.2 lasts (verificationStep_move step)⟩)
      ⟨codesSound_new config, guessesCounted_new config⟩ along taken
  exact counted.2.limited

def verificationAfter (actions : List VerificationAction) : VerificationSystem :=
  (run (verificationStep { exposeCodeInResponse := true }) {} actions).getD {}

def guessForAlice (guess : String) : VerificationAction :=
  .verifyAndConsume "alice@example.org" guess

def rightGuessTwice : List VerificationAction :=
  [.requestEmailCode " Alice@example.org" 42, guessForAlice "111111", .elapse 400,
    guessForAlice "000042", guessForAlice "000042"]

/-- The right code is accepted once, after one wrong guess. -/
theorem verification_codes_safe_alice :
    Along (verificationStep { exposeCodeInResponse := true })
        (CounterLasts { exposeCodeInResponse := true }) {} rightGuessTwice ∧
      (verificationAfter rightGuessTwice).events =
        [.guessed "alice@example.org" "000042" true 400,
          .guessed "alice@example.org" "111111" false 0,
          .issued "alice@example.org" "000042" 0] ∧
      AcceptsLatest { exposeCodeInResponse := true } (verificationAfter rightGuessTwice).events ∧
      AcceptsOnce (verificationAfter rightGuessTwice).events ∧
      ComparesLimited { exposeCodeInResponse := true }
        (verificationAfter rightGuessTwice).events := by
  have taken : run (verificationStep { exposeCodeInResponse := true }) {}
      rightGuessTwice = some (verificationAfter rightGuessTwice) := rfl
  have along : Along (verificationStep { exposeCodeInResponse := true })
      (CounterLasts { exposeCodeInResponse := true }) {} rightGuessTwice := by decide +kernel
  obtain ⟨latest, once, limited⟩ := verification_codes_safe _ _ _ taken
  exact ⟨along, by decide +kernel, latest, once, limited along⟩

/-- Four wrong guesses 600 ms after the code was issued start a counter of 179 s, which ends at
179600 ms; the code is there until 180000 ms. -/
def guessesAroundCounter : List VerificationAction :=
  [.requestEmailCode "alice@example.org" 42, .elapse 600, guessForAlice "000000",
    guessForAlice "000001", guessForAlice "000002", guessForAlice "000003", .elapse 179000,
    guessForAlice "000004", guessForAlice "000005", guessForAlice "000042"]

/-- A code for which five guesses are allowed is compared with seven, and accepted at the
seventh. -/
theorem seventh_guess_accepted :
    (run (verificationStep { exposeCodeInResponse := true }) {}
        guessesAroundCounter).isSome = true ∧
      comparisons "alice@example.org" (verificationAfter guessesAroundCounter).events = 7 ∧
      (verificationAfter guessesAroundCounter).events.head? =
        some (.guessed "alice@example.org" "000042" true 179600) ∧
      ¬ ComparesLimited { exposeCodeInResponse := true }
        (verificationAfter guessesAroundCounter).events := by
  have seven : comparisons "alice@example.org" (verificationAfter guessesAroundCounter).events =
      7 := by decide +kernel
  refine ⟨by decide +kernel, seven, by decide +kernel, fun limited => ?_⟩
  have five := limited "alice@example.org" _ suffix_rfl
  exact absurd five (by decide)

end Wimi.Gate
