import Mysql2.Script.Decimal
import Mysql2.Script.Objects
import Mysql2.Transition.Mealy
import Mysql2.Transition.Since

/-!
# The sessions of TLS connections

The slots of `lib/tls_session_cache.js`, and what a program does with them: it makes
slots, calls their methods, and changes the fields of the objects that configure TLS.
The least recently used cache of a configuration may drop any entry at any time.
-/

namespace Mysql2.Connection

open Mysql2.Script
open Mysql2.Transition

/-- What the language does with settings: `===`, which need not be reflexive, and their
truth values. -/
structure Settings (ν : Type) where
  identical : ν → ν → Bool
  truthy : ν → Bool
  symm : ∀ {a b}, identical a b = true → identical b a = true
  trans : ∀ {a b c}, identical a b = true → identical b c = true → identical a c = true

/-- The fields of a configuration that a session depends on. -/
structure Material (ν : Type) where
  ca : ν
  cert : ν
  ciphers : ν
  key : ν
  passphrase : ν
  minVersion : ν
  maxVersion : ν

/-- The arguments of the constructor; `ssl` is the address of the configuration. -/
structure SlotArguments (ν : Type) where
  ssl : Ref
  host : JsString
  port : Int
  rejectUnauthorized : ν
  verifyIdentity : ν

/-- What a slot keeps of them. -/
structure TlsSessionSlot (ν : Type) where
  ssl : Ref
  material : Material ν
  key : JsString

/-- The cache of a configuration. -/
structure SessionCache (ν κ : Type) where
  material : Material ν
  sessions : JsString → Option κ

/-- The caches, by the configurations. -/
abbrev SessionCaches (ν κ : Type) :=
  Ref → Option (SessionCache ν κ)

variable {ν κ : Type} (settings : Settings ν)

def sameMaterial (a b : Material ν) : Bool :=
  settings.identical a.ca b.ca && settings.identical a.cert b.cert &&
    settings.identical a.ciphers b.ciphers && settings.identical a.key b.key &&
    settings.identical a.passphrase b.passphrase &&
    settings.identical a.minVersion b.minVersion && settings.identical a.maxVersion b.maxVersion

/-- The key of a slot: `host:port:rejectUnauthorized:verifyIdentity`. -/
def SlotArguments.key (args : SlotArguments ν) : JsString :=
  args.host ++ 58 :: integerUnits args.port ++
    58 :: booleanUnits (settings.truthy args.rejectUnauthorized) ++
    58 :: booleanUnits (settings.truthy args.verifyIdentity)

namespace TlsSessionSlot

/-- The constructor, where `live` are the fields of the configurations. -/
def construct (live : Ref → Material ν) (args : SlotArguments ν) : TlsSessionSlot ν where
  ssl := args.ssl
  material := live args.ssl
  key := args.key settings

/-- `_sessions()`. -/
def _sessions (caches : SessionCaches ν κ) (slot : TlsSessionSlot ν) :
    Option (JsString → Option κ) :=
  match caches slot.ssl with
  | some cache =>
      if sameMaterial settings cache.material slot.material then some cache.sessions else none
  | none => none

def get (caches : SessionCaches ν κ) (slot : TlsSessionSlot ν) : Option κ :=
  match slot._sessions settings caches with
  | some sessions => sessions slot.key
  | none => none

/-- The caches with an entry of a configuration's own cache written. -/
def write (caches : SessionCaches ν κ) (slot : TlsSessionSlot ν) (material : Material ν)
    (sessions : JsString → Option κ) (entry : Option κ) : SessionCaches ν κ :=
  Function.update caches slot.ssl (some ⟨material, Function.update sessions slot.key entry⟩)

/-- `set(session)`, which stores nothing where the configuration has changed. -/
def set (live : Ref → Material ν) (caches : SessionCaches ν κ) (slot : TlsSessionSlot ν)
    (session : κ) : Option (SessionCaches ν κ) :=
  match caches slot.ssl, slot._sessions settings caches with
  | some cache, some sessions => some (slot.write caches cache.material sessions (some session))
  | _, _ =>
      if !sameMaterial settings slot.material (live slot.ssl) then none
      else some (slot.write caches slot.material (fun _ => none) (some session))

/-- `delete()`. -/
def delete (caches : SessionCaches ν κ) (slot : TlsSessionSlot ν) : SessionCaches ν κ :=
  match caches slot.ssl, slot._sessions settings caches with
  | some cache, some sessions => slot.write caches cache.material sessions none
  | _, _ => caches

end TlsSessionSlot

/-- A slot with the arguments it was made of. -/
structure OpenSlot where
  args : SlotArguments ν
  slot : TlsSessionSlot ν
  ssl_eq : slot.ssl = args.ssl
  key_eq : slot.key = args.key settings

/-- The slots of a program, the fields of its configurations, and the caches. -/
structure TlsProgram (κ : Type) where
  live : Ref → Material ν
  caches : SessionCaches ν κ
  slots : List (OpenSlot settings)

/-- What a program does.  Slots are given by the order in which they were made. -/
inductive TlsEvent (ν κ : Type)
  | construct (args : SlotArguments ν)
  | get (slot : Nat)
  | set (slot : Nat) (session : κ)
  | delete (slot : Nat)
  | mutate (ssl : Ref) (material : Material ν)
  /-- The cache of a configuration drops an entry. -/
  | evict (ssl : Ref) (key : JsString)

/-- What the methods did. -/
inductive TlsOutput (κ : Type)
  | got (slot : OpenSlot settings) (session : Option κ)
  | stored (slot : OpenSlot settings) (session : κ)
  | deleted (slot : OpenSlot settings)

namespace TlsProgram

variable {settings}

/-- Before any slot is made. -/
def initial (settings : Settings ν) (κ : Type) (live : Ref → Material ν) : TlsProgram settings κ where
  live := live
  caches := fun _ => none
  slots := []

def construct (program : TlsProgram settings κ) (args : SlotArguments ν) :
    TlsProgram settings κ :=
  { program with
    slots := program.slots ++
      [{ args := args
         slot := TlsSessionSlot.construct settings program.live args
         ssl_eq := rfl
         key_eq := rfl }] }

/-- An entry of a cache is dropped. -/
def evict (caches : SessionCaches ν κ) (ssl : Ref) (key : JsString) : SessionCaches ν κ :=
  match caches ssl with
  | some cache =>
      Function.update caches ssl
        (some { cache with sessions := Function.update cache.sessions key none })
  | none => caches

/-- A method of a slot. -/
def call (program : TlsProgram settings κ) (slot : Nat)
    (method : OpenSlot settings → SessionCaches ν κ × List (TlsOutput settings κ)) :
    TlsProgram settings κ × List (TlsOutput settings κ) :=
  match program.slots[slot]? with
  | some slot => ({ program with caches := (method slot).1 }, (method slot).2)
  | none => (program, [])

def step : Step (TlsProgram settings κ) (TlsEvent ν κ) (TlsOutput settings κ)
  | program, .construct args => (program.construct args, [])
  | program, .get slot =>
      program.call slot fun slot =>
        (program.caches, [.got slot (slot.slot.get settings program.caches)])
  | program, .set slot session =>
      program.call slot fun slot =>
        match slot.slot.set settings program.live program.caches session with
        | some caches => (caches, [.stored slot session])
        | none => (program.caches, [])
  | program, .delete slot =>
      program.call slot fun slot => (slot.slot.delete settings program.caches, [.deleted slot])
  | program, .mutate ssl material =>
      ({ program with live := Function.update program.live ssl material }, [])
  | program, .evict ssl key => ({ program with caches := evict program.caches ssl key }, [])

end TlsProgram

/-! ### Same settings -/

section Material

variable {settings} {a b c : Material ν}

theorem sameMaterial_iff :
    sameMaterial settings a b = true ↔
      settings.identical a.ca b.ca = true ∧ settings.identical a.cert b.cert = true ∧
        settings.identical a.ciphers b.ciphers = true ∧ settings.identical a.key b.key = true ∧
        settings.identical a.passphrase b.passphrase = true ∧
        settings.identical a.minVersion b.minVersion = true ∧
        settings.identical a.maxVersion b.maxVersion = true := by
  simp [sameMaterial, and_assoc]

theorem sameMaterial_symm (same : sameMaterial settings a b = true) :
    sameMaterial settings b a = true := by
  obtain ⟨ca, cert, ciphers, key, passphrase, minVersion, maxVersion⟩ := sameMaterial_iff.mp same
  exact sameMaterial_iff.mpr ⟨settings.symm ca, settings.symm cert, settings.symm ciphers,
    settings.symm key, settings.symm passphrase, settings.symm minVersion,
    settings.symm maxVersion⟩

theorem sameMaterial_trans (first : sameMaterial settings a b = true)
    (second : sameMaterial settings b c = true) : sameMaterial settings a c = true := by
  obtain ⟨ca, cert, ciphers, key, passphrase, minVersion, maxVersion⟩ := sameMaterial_iff.mp first
  obtain ⟨ca', cert', ciphers', key', passphrase', minVersion', maxVersion'⟩ :=
    sameMaterial_iff.mp second
  exact sameMaterial_iff.mpr ⟨settings.trans ca ca', settings.trans cert cert',
    settings.trans ciphers ciphers', settings.trans key key',
    settings.trans passphrase passphrase', settings.trans minVersion minVersion',
    settings.trans maxVersion maxVersion'⟩

/-- Two lists of arguments for the same peer under the same settings. -/
structure SlotArguments.Same (settings : Settings ν) (first second : SlotArguments ν) : Prop where
  ssl : first.ssl = second.ssl
  host : first.host = second.host
  port : first.port = second.port
  rejectUnauthorized :
    settings.truthy first.rejectUnauthorized = settings.truthy second.rejectUnauthorized
  verifyIdentity : settings.truthy first.verifyIdentity = settings.truthy second.verifyIdentity

/-- The key tells the arguments apart, whatever characters the host has. -/
theorem SlotArguments.key_injective {first second : SlotArguments ν}
    (sameSsl : first.ssl = second.ssl) (sameKey : first.key settings = second.key settings) :
    first.Same settings second := by
  have ⟨others, verifyIdentity⟩ := append_separator_injective (colon_notMem_booleanUnits _)
    (colon_notMem_booleanUnits _) sameKey
  have ⟨hostPort, rejectUnauthorized⟩ := append_separator_injective (colon_notMem_booleanUnits _)
    (colon_notMem_booleanUnits _) others
  have ⟨host, port⟩ := append_separator_injective (colon_notMem_integerUnits _)
    (colon_notMem_integerUnits _) hostPort
  exact
    { ssl := sameSsl
      host := host
      port := integerUnits_injective port
      rejectUnauthorized := booleanUnits_injective rejectUnauthorized
      verifyIdentity := booleanUnits_injective verifyIdentity }

theorem SlotArguments.Same.key {first second : SlotArguments ν} (same : first.Same settings second) :
    first.key settings = second.key settings := by
  rw [SlotArguments.key, SlotArguments.key, same.host, same.port, same.rejectUnauthorized,
    same.verifyIdentity]

/-- Two slots for the same peer under the same settings that captured the same material. -/
structure OpenSlot.Such (first second : OpenSlot settings) : Prop where
  args : first.args.Same settings second.args
  material : sameMaterial settings first.slot.material second.slot.material = true

end Material

/-! ### What the methods do to the caches -/

namespace TlsSessionSlot

variable {settings} {caches : SessionCaches ν κ} {slot : TlsSessionSlot ν}

/-- A slot reads the cache of its configuration if that was made for its material. -/
theorem _sessions_eq_some {sessions : JsString → Option κ} :
    slot._sessions settings caches = some sessions ↔
      ∃ cache, caches slot.ssl = some cache ∧
        sameMaterial settings cache.material slot.material = true ∧ cache.sessions = sessions := by
  rw [_sessions]
  cases found : caches slot.ssl with
  | none => simp
  | some cache =>
      by_cases same : sameMaterial settings cache.material slot.material = true
      · simp [same]
      · simp [same]

theorem get_eq_some {session : κ} :
    slot.get settings caches = some session ↔
      ∃ cache, caches slot.ssl = some cache ∧
        sameMaterial settings cache.material slot.material = true ∧
          cache.sessions slot.key = some session := by
  rw [get]
  cases found : slot._sessions settings caches with
  | none =>
      constructor
      · intro none
        cases none
      · rintro ⟨cache, isCache, same, -⟩
        have some := _sessions_eq_some.mpr ⟨cache, isCache, same, rfl⟩
        rw [found] at some
        cases some
  | some sessions =>
      obtain ⟨cache, isCache, same, rfl⟩ := _sessions_eq_some.mp found
      constructor
      · intro isSession
        exact ⟨cache, isCache, same, isSession⟩
      · rintro ⟨other, isOther, -, isSession⟩
        rw [isCache] at isOther
        cases isOther
        exact isSession

/-- `set` writes into the cache made for its material, or makes one. -/
theorem set_eq_some {live : Ref → Material ν} {after : SessionCaches ν κ} {session : κ}
    (stored : slot.set settings live caches session = some after) :
    (∃ cache, caches slot.ssl = some cache ∧
      sameMaterial settings cache.material slot.material = true ∧
      after = slot.write caches cache.material cache.sessions (some session)) ∨
    (sameMaterial settings slot.material slot.material = true ∧
      after = slot.write caches slot.material (fun _ => none) (some session)) := by
  rw [set] at stored
  split at stored
  · rename_i cache sessions isCache found
    obtain ⟨other, isOther, same, rfl⟩ := _sessions_eq_some.mp found
    rw [isCache] at isOther
    cases isOther
    cases stored
    exact .inl ⟨cache, isCache, same, rfl⟩
  · by_cases same : sameMaterial settings slot.material (live slot.ssl) = true
    · rw [if_neg (by simp [same])] at stored
      cases stored
      exact .inr ⟨sameMaterial_trans same (sameMaterial_symm same), rfl⟩
    · rw [if_pos (by simp [same])] at stored
      cases stored

/-- `delete` takes an entry out of a cache, or changes nothing. -/
theorem delete_cases (slot : TlsSessionSlot ν) (caches : SessionCaches ν κ) :
    (∃ cache, caches slot.ssl = some cache ∧
      slot.delete settings caches = Function.update caches slot.ssl
        (some { cache with sessions := Function.update cache.sessions slot.key none })) ∨
    slot.delete settings caches = caches := by
  rw [delete]
  split
  · rename_i cache sessions isCache found
    obtain ⟨other, isOther, same, rfl⟩ := _sessions_eq_some.mp found
    rw [isCache] at isOther
    cases isOther
    exact .inl ⟨cache, isCache, rfl⟩
  · exact .inr rfl

/-- Behind `delete` the slot gets nothing. -/
theorem get_delete (slot : TlsSessionSlot ν) (caches : SessionCaches ν κ) :
    slot.get settings (slot.delete settings caches) = none := by
  cases gets : slot.get settings (slot.delete settings caches) with
  | none => rfl
  | some session =>
      obtain ⟨cache, isCache, same, isSession⟩ := get_eq_some.mp gets
      cases found : slot._sessions settings caches with
      | none =>
          have unchanged : slot.delete settings caches = caches := by simp [delete, found]
          rw [unchanged] at isCache
          have reads := _sessions_eq_some.mpr ⟨cache, isCache, same, rfl⟩
          rw [found] at reads
          cases reads
      | some sessions =>
          obtain ⟨old, wasCache, -, rfl⟩ := _sessions_eq_some.mp found
          have written : slot.delete settings caches =
              slot.write caches old.material old.sessions none := by
            simp [delete, found, wasCache]
          rw [written, write, Function.update_self] at isCache
          cases isCache
          dsimp only at isSession
          rw [Function.update_self] at isSession
          cases isSession

end TlsSessionSlot

/-! ### Where the sessions of the caches come from -/

section Origin

variable {settings}

/-- A session was stored through a slot with this configuration, key and material. -/
def StoredAt (ssl : Ref) (key : JsString) (material : Material ν) (session : κ) :
    TlsOutput settings κ → Prop
  | .stored slot stored =>
      stored = session ∧ slot.slot.ssl = ssl ∧ slot.slot.key = key ∧
        sameMaterial settings material slot.slot.material = true
  | _ => False

/-- A slot with this configuration, key and material was told to delete its session. -/
def DeletedAt (ssl : Ref) (key : JsString) (material : Material ν) : TlsOutput settings κ → Prop
  | .deleted slot =>
      slot.slot.ssl = ssl ∧ slot.slot.key = key ∧
        sameMaterial settings material slot.slot.material = true
  | _ => False

/-- Every entry of the caches was stored for its place, and not deleted there since. -/
def Traced (outputs : List (TlsOutput settings κ)) (caches : SessionCaches ν κ) : Prop :=
  ∀ ssl cache key session, caches ssl = some cache → cache.sessions key = some session →
    Since (StoredAt ssl key cache.material session) (DeletedAt ssl key cache.material) outputs

namespace Traced

variable {outputs : List (TlsOutput settings κ)} {caches : SessionCaches ν κ}

/-- Outputs that delete nothing. -/
theorem quiet (traced : Traced outputs caches) {output : TlsOutput settings κ}
    (keeps : ∀ ssl key material, ¬ DeletedAt ssl key material output) :
    Traced (outputs ++ [output]) caches := by
  intro ssl cache key session isCache isSession
  refine (traced ssl cache key session isCache isSession).append fun later member => ?_
  rw [List.mem_singleton] at member
  rw [member]
  exact keeps ssl key cache.material

/-- A cache of which an entry is left out. -/
theorem shrink (traced : Traced outputs caches) {ssl : Ref} {cache : SessionCache ν κ}
    (isCache : caches ssl = some cache) (key : JsString) :
    Traced outputs (Function.update caches ssl
      (some { cache with sessions := Function.update cache.sessions key none })) := by
  intro otherSsl other otherKey session isOther isSession
  by_cases sameSsl : otherSsl = ssl
  · subst sameSsl
    rw [Function.update_self] at isOther
    cases isOther
    dsimp only at isSession
    by_cases sameKey : otherKey = key
    · subst sameKey
      rw [Function.update_self] at isSession
      cases isSession
    · rw [Function.update_of_ne sameKey] at isSession
      exact traced otherSsl cache otherKey session isCache isSession
  · rw [Function.update_of_ne sameSsl] at isOther
    exact traced otherSsl other otherKey session isOther isSession

/-- A session stored among traced ones. -/
theorem store (traced : Traced outputs caches) (slot : OpenSlot settings)
    {material : Material ν} {sessions : JsString → Option κ} (session : κ)
    (same : sameMaterial settings material slot.slot.material = true)
    (others : ∀ key session, sessions key = some session →
      Since (StoredAt slot.slot.ssl key material session) (DeletedAt slot.slot.ssl key material)
        outputs) :
    Traced (outputs ++ [.stored slot session])
      (slot.slot.write caches material sessions (some session)) := by
  have keeps : ∀ ssl key material, ∀ later ∈ [TlsOutput.stored slot session],
      ¬ DeletedAt ssl key material later := by
    intro ssl key material later member
    rw [List.mem_singleton] at member
    rw [member]
    exact fun deleted => deleted
  intro ssl cache key found isCache isSession
  by_cases sameSsl : ssl = slot.slot.ssl
  · subst sameSsl
    rw [TlsSessionSlot.write, Function.update_self] at isCache
    cases isCache
    by_cases sameKey : key = slot.slot.key
    · subst sameKey
      dsimp only at isSession
      rw [Function.update_self] at isSession
      cases isSession
      exact Since.last ⟨rfl, rfl, rfl, same⟩
    · dsimp only at isSession
      rw [Function.update_of_ne sameKey] at isSession
      exact (others key found isSession).append (keeps _ _ _)
  · rw [TlsSessionSlot.write, Function.update_of_ne sameSsl] at isCache
    exact (traced ssl cache key found isCache isSession).append (keeps _ _ _)

theorem set (traced : Traced outputs caches) {slot : OpenSlot settings} {session : κ}
    {live : Ref → Material ν} {after : SessionCaches ν κ}
    (stored : slot.slot.set settings live caches session = some after) :
    Traced (outputs ++ [.stored slot session]) after := by
  rcases TlsSessionSlot.set_eq_some stored with ⟨cache, isCache, same, rfl⟩ | ⟨same, rfl⟩
  · exact traced.store slot session same fun key found isSession =>
      traced slot.slot.ssl cache key found isCache isSession
  · exact traced.store slot session same fun key found isSession => nomatch isSession

/-- What a deletion spoils is no longer there. -/
theorem delete (traced : Traced outputs caches) (slot : OpenSlot settings) :
    Traced (outputs ++ [.deleted slot]) (slot.slot.delete settings caches) := by
  have shrunk : Traced outputs (slot.slot.delete settings caches) := by
    rcases slot.slot.delete_cases caches with ⟨cache, isCache, written⟩ | unchanged
    · rw [written]
      exact traced.shrink isCache slot.slot.key
    · rw [unchanged]
      exact traced
  intro ssl cache key session isCache isSession
  refine (shrunk ssl cache key session isCache isSession).append fun later member deleted => ?_
  rw [List.mem_singleton] at member
  subst member
  obtain ⟨rfl, rfl, same⟩ := deleted
  have gets := TlsSessionSlot.get_eq_some.mpr ⟨cache, isCache, same, isSession⟩
  rw [TlsSessionSlot.get_delete] at gets
  cases gets

end Traced

end Origin

namespace TlsProgram

variable {settings}

/-- What a slot may give: a session stored through a slot for the same peer, settings and
material, behind which no such slot was told to delete. -/
def Entitled (past : List (TlsOutput settings κ)) : TlsOutput settings κ → Prop
  | .got slot (some session) =>
      Since (fun output => ∃ other, output = .stored other session ∧ other.Such slot)
        (fun output => ∃ other, output = .deleted other ∧ other.Such slot) past
  | _ => True

/-- A traced cache gives a slot only what it may give. -/
theorem entitled_get {outputs : List (TlsOutput settings κ)} {caches : SessionCaches ν κ}
    (traced : Traced outputs caches) (slot : OpenSlot settings) :
    Entitled outputs (.got slot (slot.slot.get settings caches)) := by
  cases gets : slot.slot.get settings caches with
  | none => trivial
  | some session =>
      obtain ⟨cache, isCache, same, isSession⟩ := TlsSessionSlot.get_eq_some.mp gets
      refine (traced _ cache _ session isCache isSession).imp ?_ ?_
      · intro output stored
        match output, stored with
        | .stored other _, ⟨rfl, sameSsl, sameKey, sameCache⟩ =>
            rw [other.ssl_eq, slot.ssl_eq] at sameSsl
            rw [other.key_eq, slot.key_eq] at sameKey
            exact ⟨other, rfl, SlotArguments.key_injective sameSsl sameKey,
              sameMaterial_trans (sameMaterial_symm sameCache) same⟩
      · rintro output ⟨other, rfl, such⟩
        refine ⟨?_, ?_, sameMaterial_trans same (sameMaterial_symm such.material)⟩
        · rw [other.ssl_eq, slot.ssl_eq, such.args.ssl]
        · rw [other.key_eq, slot.key_eq, such.args.key]

/-- Traced caches, and methods that gave only what they may give. -/
structure Guarded (outputs : List (TlsOutput settings κ)) (program : TlsProgram settings κ) :
    Prop where
  traced : Traced outputs program.caches
  entitled : Preceded Entitled outputs

theorem step_guarded {outputs : List (TlsOutput settings κ)} {program : TlsProgram settings κ}
    (guarded : Guarded outputs program) (event : TlsEvent ν κ) :
    Guarded (outputs ++ (step program event).2) (step program event).1 := by
  obtain ⟨traced, entitled⟩ := guarded
  cases event with
  | construct args =>
      rw [step, List.append_nil]
      exact ⟨traced, entitled⟩
  | mutate ssl material =>
      rw [step, List.append_nil]
      exact ⟨traced, entitled⟩
  | evict ssl key =>
      rw [step, List.append_nil]
      refine ⟨?_, entitled⟩
      show Traced outputs (evict program.caches ssl key)
      rw [evict]
      cases isCache : program.caches ssl with
      | none => exact traced
      | some cache => exact traced.shrink isCache key
  | get slot =>
      rw [step, call]
      cases program.slots[slot]? with
      | none => simpa using Guarded.mk traced entitled
      | some slot =>
          exact ⟨traced.quiet fun _ _ _ deleted => deleted,
            entitled.concat (entitled_get traced slot)⟩
  | delete slot =>
      rw [step, call]
      cases program.slots[slot]? with
      | none => simpa using Guarded.mk traced entitled
      | some slot => exact ⟨traced.delete slot, entitled.concat trivial⟩
  | set slot session =>
      rw [step, call]
      cases program.slots[slot]? with
      | none => simpa using Guarded.mk traced entitled
      | some slot =>
          dsimp only
          cases stored : slot.slot.set settings program.live program.caches session with
          | none => simpa using Guarded.mk traced entitled
          | some after => exact ⟨traced.set stored, entitled.concat trivial⟩

/-- In every run the methods give only what they may give. -/
theorem run_entitled (settings : Settings ν) (live : Ref → Material ν)
    (events : List (TlsEvent ν κ)) :
    Preceded Entitled (run step (initial settings κ live) events).2 := by
  have before : Guarded [] (initial settings κ live) :=
    { traced := fun _ _ _ _ isCache => nomatch isCache
      entitled := Preceded.nil }
  exact (run_invariant Guarded (fun _ _ event guarded => step_guarded guarded event) events
    before).entitled

/-- Settings of which `none` is not identical to itself. -/
def numbered : Settings (Option Nat) where
  identical a b := a.isSome && a == b
  truthy a := a.isSome
  symm := by
    intro a b same
    obtain ⟨isSome, rfl⟩ : a.isSome = true ∧ a = b := by simpa using same
    simpa using isSome
  trans := by
    intro a b c first second
    obtain ⟨-, rfl⟩ : a.isSome = true ∧ a = b := by simpa using first
    exact second

/-- A session is given again to a slot that checks certificates as well, and to no other. -/
example :
    let material : Material (Option Nat) := ⟨some 1, some 1, some 1, some 1, some 1, some 1, some 1⟩
    let checking : SlotArguments (Option Nat) := ⟨0, units "db", 3306, some 1, none⟩
    let program := (run step (initial numbered Nat fun _ => material)
      [.construct checking, .set 0 7, .construct checking,
        .construct { checking with rejectUnauthorized := none }]).1
    program.slots.map (fun slot => slot.slot.get numbered program.caches) =
      [some 7, some 7, none] := by
  decide

end TlsProgram

end Mysql2.Connection
