import Mathlib.Data.List.DropRight
import Mathlib.Data.Option.Basic
import Mathlib.Logic.Function.Basic
import Panakoes.Foundation.Run

/-! # The KMS signer

Processes of the auth service that sign with the key to which an alias of KMS points, and publish it
in a JWKS document. Each caches the public key; any number of calls are under way in a process, and
the alias may be pointed to another key at any time. Node's reading of a public key is not part of the
model.
-/

namespace Panakoes.Auth.Kms

open Transition

/-- A key of KMS: the ARN and the public key that `GetPublicKey` returns. -/
structure KmsKey where
  keyId : String
  publicKey : String
  deriving DecidableEq

/-- The fields of `jwk` that are read. -/
structure ExportedJwk where
  kty : Option String
  n : Option String
  e : Option String

/-- `JwksKey`. -/
structure JwksKey where
  kty : String
  use : String
  alg : String
  kid : String
  n : String
  e : String
  deriving DecidableEq

/-- A character of `[a-z0-9-]`, of either case. -/
def isKidChar (char : Char) : Bool := char.isAlphanum || char = '-'

/-- `extractKidFromArn`. -/
def extractKidFromArn (keyIdOrArn : String) : String :=
  let kid := keyIdOrArn.toList.rtakeWhile isKidChar
  let before := keyIdOrArn.toList.rdropWhile isKidChar
  if kid ≠ [] ∧ ":key/".toList <:+ before.map Char.toLower then String.ofList kid else keyIdOrArn

variable {ι π : Type*} (exportJwk : String → Except String ExportedJwk)

/-- `derSpkiToJwk`. -/
def derSpkiToJwk (derSpki kid : String) : Except String JwksKey :=
  match exportJwk derSpki with
  | .error message => .error message
  | .ok jwk =>
      match jwk.kty, jwk.n, jwk.e with
      | some "RSA", some n, some e => .ok ⟨"RSA", "sig", "RS256", kid, n, e⟩
      | _, _, _ => .error "KMS public key is not RSA; expected RSA_2048 with SIGN_VERIFY usage"

/-- `CachedPublicKey`. -/
structure CachedPublicKey where
  kid : String
  jwks : List JwksKey
  expiresAt : ℕ

/-- What `refreshCache` makes of a response. -/
def refreshed (ttlMs : ℕ) (key : KmsKey) (now : ℕ) : Except String CachedPublicKey :=
  let kid := extractKidFromArn key.keyId
  (derSpkiToJwk exportJwk key.publicKey kid).map fun jwk => ⟨kid, [jwk], now + ttlMs⟩

/-- `kid`, `getJwks`, and `signRs256Compact`, which asks for the `kid` and then for the signature. -/
inductive Want where
  | kid
  | jwks
  | token
  deriving DecidableEq

/-- What a call returns. Of a token, the `kid` in its header and the key that it is signed with. -/
inductive Answer where
  | kid (kid : String)
  | jwks (keys : List JwksKey)
  | token (kid : String) (signer : KmsKey)
  deriving DecidableEq

/-- Where a call is: it waits for `GetPublicKey`, before and after KMS has read the alias, or for
`Sign`, or it is over. Behind an answer is the time at which the public key was taken. -/
inductive Phase where
  | idle
  | fetching (want : Want)
  | fetched (want : Want) (key : KmsKey) (readAt : ℕ)
  | signing (kid : String) (takenAt : ℕ)
  | done (answer : Answer) (takenAt : ℕ)
  | failed (message : String)
  deriving DecidableEq

/-- The time, the key of the alias and when it was pointed to it, the cache of each process, and the
calls. -/
structure World (ι π : Type*) where
  now : ℕ
  target : KmsKey
  repointedAt : Option ℕ
  cache : π → Option CachedPublicKey
  calls : ι → Phase

inductive Action (ι : Type*) where
  | tick (elapsed : ℕ)
  | repoint (key : KmsKey)
  | call (id : ι) (want : Want)
  | read (id : ι)
  | arrive (id : ι)
  | sign (id : ι)
  | fail (id : ι) (message : String)

/-- What a call does with the public key. -/
def Want.proceed (cached : CachedPublicKey) (now : ℕ) : Want → Phase
  | .kid => .done (.kid cached.kid) now
  | .jwks => .done (.jwks cached.jwks) now
  | .token => .signing cached.kid now

/-- `loadCache`: the cached key, unless it has expired. -/
def World.live (world : World ι π) (process : π) : Option CachedPublicKey :=
  (world.cache process).filter fun cached => world.now < cached.expiresAt

variable [DecidableEq ι] [DecidableEq π]

def World.move (world : World ι π) (id : ι) (phase : Phase) : World ι π :=
  { world with calls := Function.update world.calls id phase }

variable (ttlMs : ℕ) (home : ι → π)

/-- One step. A call is made in the process that is its home. -/
def step (world : World ι π) : Action ι → Option (World ι π)
  | .tick elapsed => some { world with now := world.now + elapsed }
  | .repoint key => some { world with target := key, repointedAt := some world.now }
  | .call id want =>
      match world.calls id with
      | .idle =>
          some <| world.move id <|
            match world.live (home id) with
            | some cached => want.proceed cached world.now
            | none => .fetching want
      | _ => none
  | .read id =>
      match world.calls id with
      | .fetching want => some (world.move id (.fetched want world.target world.now))
      | _ => none
  | .arrive id =>
      match world.calls id with
      | .fetched want key _ =>
          match refreshed exportJwk ttlMs key world.now with
          | .error message => some (world.move id (.failed message))
          | .ok cached =>
              some
                { world.move id (want.proceed cached world.now) with
                  cache := Function.update world.cache (home id) (some cached) }
      | _ => none
  | .sign id =>
      match world.calls id with
      | .signing kid takenAt => some (world.move id (.done (.token kid world.target) takenAt))
      | _ => none
  | .fail id message =>
      match world.calls id with
      | .fetching _ | .fetched _ _ _ | .signing _ _ => some (world.move id (.failed message))
      | _ => none

/-- No call is made yet, and nothing is cached. -/
def World.start (now : ℕ) (target : KmsKey) : World ι π :=
  ⟨now, target, none, fun _ => none, fun _ => .idle⟩

/-! ## Which key an answer is of -/

variable {exportJwk : String → Except String ExportedJwk} {ttlMs latency : ℕ} {home : ι → π}

/-- A response that is on its way was read no longer ago than the latency. -/
def Phase.Prompt (latency now : ℕ) : Phase → Prop
  | .fetched _ _ readAt => now ≤ readAt + latency
  | .idle | .fetching _ | .signing _ _ | .done _ _ | .failed _ => True

instance (latency now : ℕ) : ∀ phase : Phase, Decidable (phase.Prompt latency now)
  | .fetched _ _ _ => inferInstanceAs (Decidable (_ ≤ _))
  | .idle | .fetching _ | .signing _ _ | .done _ _ | .failed _ => inferInstanceAs (Decidable True)

/-- A response of KMS arrives within the latency. -/
def Prompt (latency : ℕ) (_ : List (Action ι)) (world : World ι π) : Action ι → Prop
  | .arrive id => (world.calls id).Prompt latency world.now
  | .tick _ | .repoint _ | .call _ _ | .read _ | .sign _ | .fail _ _ => True

instance (latency : ℕ) (past : List (Action ι)) (world : World ι π) :
    ∀ action, Decidable (Prompt latency past world action)
  | .arrive _ => inferInstanceAs (Decidable (Phase.Prompt _ _ _))
  | .tick _ | .repoint _ | .call _ _ | .read _ | .sign _ | .fail _ _ =>
      inferInstanceAs (Decidable True)

/-- The alias was last pointed to another key before the time. -/
def World.Since (world : World ι π) (time : ℕ) : Prop :=
  ∀ repointed ∈ world.repointedAt, repointed < time

variable (exportJwk) in
/-- The answer is of the key. -/
def Answer.Of (key : KmsKey) : Answer → Prop
  | .kid name => name = extractKidFromArn key.keyId
  | .jwks keys =>
      ∃ jwk, derSpkiToJwk exportJwk key.publicKey (extractKidFromArn key.keyId) = .ok jwk ∧
        keys = [jwk]
  | .token name _ => name = extractKidFromArn key.keyId

/-- The key that a token is signed with. -/
def Answer.signer : Answer → Option KmsKey
  | .token _ signer => some signer
  | .kid _ | .jwks _ => none

variable (exportJwk ttlMs latency) in
/-- What is cached is of a key that KMS has returned. -/
def World.CacheOf (world : World ι π) (cached : CachedPublicKey) : Prop :=
  ∃ key readAt, readAt ≤ world.now ∧ (world.Since readAt → key = world.target) ∧
    cached.expiresAt ≤ readAt + latency + ttlMs ∧
    Answer.Of exportJwk key (.kid cached.kid) ∧ Answer.Of exportJwk key (.jwks cached.jwks)

variable (exportJwk ttlMs latency) in
/-- What is known where a call is. A key that is taken later than the life of a cached key behind the
last change of the alias is the alias's. -/
def World.PhaseOf (world : World ι π) : Phase → Prop
  | .fetched _ key readAt => readAt ≤ world.now ∧ (world.Since readAt → key = world.target)
  | .signing kid takenAt =>
      ∃ key, takenAt ≤ world.now ∧ Answer.Of exportJwk key (.kid kid) ∧
        (world.Since (takenAt - (latency + ttlMs)) → key = world.target)
  | .done answer takenAt =>
      ∃ key, takenAt ≤ world.now ∧ answer.Of exportJwk key ∧
        (world.Since (takenAt - (latency + ttlMs)) →
          key = world.target ∧ ∀ signer ∈ answer.signer, signer = world.target)
  | .idle | .fetching _ | .failed _ => True

variable (exportJwk ttlMs latency) in
structure World.Sound (world : World ι π) : Prop where
  cache : ∀ process, ∀ cached ∈ world.cache process, world.CacheOf exportJwk ttlMs latency cached
  calls : ∀ id, world.PhaseOf exportJwk ttlMs latency (world.calls id)

variable {world next : World ι π} {phase : Phase} {cached : CachedPublicKey}

/-- What `refreshCache` makes of a key is of that key. -/
theorem of_refreshed {key : KmsKey} {now : ℕ}
    (built : refreshed exportJwk ttlMs key now = .ok cached) :
    cached.expiresAt = now + ttlMs ∧ Answer.Of exportJwk key (.kid cached.kid) ∧
      Answer.Of exportJwk key (.jwks cached.jwks) := by
  unfold refreshed at built
  dsimp only at built
  cases exported : derSpkiToJwk exportJwk key.publicKey (extractKidFromArn key.keyId) with
  | error message =>
      rw [exported] at built
      cases built
  | ok jwk =>
      rw [exported] at built
      cases built
      exact ⟨rfl, rfl, jwk, exported, rfl⟩

omit [DecidableEq ι] [DecidableEq π] in
/-- A call that takes the public key of a process before it expires. -/
theorem phaseOf_proceed (want : Want) (key : KmsKey)
    (kid : Answer.Of exportJwk key (.kid cached.kid))
    (jwks : Answer.Of exportJwk key (.jwks cached.jwks))
    (current : world.Since (world.now - (latency + ttlMs)) → key = world.target) :
    world.PhaseOf exportJwk ttlMs latency (want.proceed cached world.now) := by
  cases want with
  | kid => exact ⟨key, le_rfl, kid, fun since => ⟨current since, fun _ none => by cases none⟩⟩
  | jwks => exact ⟨key, le_rfl, jwks, fun since => ⟨current since, fun _ none => by cases none⟩⟩
  | token => exact ⟨key, le_rfl, kid, current⟩

/-- Time goes on, and where the alias has not been pointed elsewhere by then its key is the same. -/
def World.Leads (world next : World ι π) : Prop :=
  world.now ≤ next.now ∧
    ∀ time ≤ world.now, next.Since time → world.Since time ∧ next.target = world.target

omit [DecidableEq ι] [DecidableEq π] in
theorem PhaseOf.mono (holds : world.PhaseOf exportJwk ttlMs latency phase)
    (leads : world.Leads next) : next.PhaseOf exportJwk ttlMs latency phase := by
  obtain ⟨later, fixed⟩ := leads
  cases phase with
  | idle => exact True.intro
  | fetching want => exact True.intro
  | failed message => exact True.intro
  | fetched want key readAt =>
      obtain ⟨before, current⟩ := holds
      refine ⟨before.trans later, fun since => ?_⟩
      obtain ⟨early, same⟩ := fixed readAt before since
      exact (current early).trans same.symm
  | signing kid takenAt =>
      obtain ⟨key, before, of, current⟩ := holds
      refine ⟨key, before.trans later, of, fun since => ?_⟩
      obtain ⟨early, same⟩ := fixed _ ((Nat.sub_le _ _).trans before) since
      exact (current early).trans same.symm
  | done answer takenAt =>
      obtain ⟨key, before, of, current⟩ := holds
      refine ⟨key, before.trans later, of, fun since => ?_⟩
      obtain ⟨early, same⟩ := fixed _ ((Nat.sub_le _ _).trans before) since
      rw [same]
      exact current early

omit [DecidableEq ι] [DecidableEq π] in
theorem CacheOf.mono (holds : world.CacheOf exportJwk ttlMs latency cached)
    (leads : world.Leads next) : next.CacheOf exportJwk ttlMs latency cached := by
  obtain ⟨key, readAt, before, current, expires, of⟩ := holds
  refine ⟨key, readAt, before.trans leads.1, fun since => ?_, expires, of⟩
  obtain ⟨early, same⟩ := leads.2 readAt before since
  exact (current early).trans same.symm

omit [DecidableEq ι] [DecidableEq π] in
theorem sound_of_leads (sound : world.Sound exportJwk ttlMs latency) (leads : world.Leads next)
    (cache : next.cache = world.cache) (calls : next.calls = world.calls) :
    next.Sound exportJwk ttlMs latency where
  cache process cached held := by
    rw [cache] at held
    exact CacheOf.mono (sound.cache process cached held) leads
  calls id := by
    rw [calls]
    exact PhaseOf.mono (sound.calls id) leads

omit [DecidableEq π] in
/-- A call moves on. -/
theorem sound_move (sound : world.Sound exportJwk ttlMs latency) {id : ι}
    (holds : world.PhaseOf exportJwk ttlMs latency phase) :
    (world.move id phase).Sound exportJwk ttlMs latency where
  cache := sound.cache
  calls other := by
    unfold World.move
    dsimp only
    by_cases same : other = id
    · rw [same, Function.update_self]
      exact holds
    · rw [Function.update_of_ne same]
      exact sound.calls other

omit [DecidableEq ι] [DecidableEq π] in
/-- The cached key of a process, before it expires. -/
theorem phaseOf_live (sound : world.Sound exportJwk ttlMs latency) {process : π}
    (live : world.live process = some cached) (want : Want) :
    world.PhaseOf exportJwk ttlMs latency (want.proceed cached world.now) := by
  obtain ⟨held, unexpired⟩ := Option.filter_eq_some_iff.mp live
  obtain ⟨key, readAt, before, current, expires, kid, jwks⟩ := sound.cache process cached held
  have unexpired : world.now < cached.expiresAt := of_decide_eq_true unexpired
  refine phaseOf_proceed want key kid jwks fun since => current fun repointed changed => ?_
  have changedAt := since repointed changed
  omega

/-- A response that arrives is cached, and the call goes on with it. -/
theorem sound_arrive (sound : world.Sound exportJwk ttlMs latency) {id : ι} {want : Want}
    {key : KmsKey} {readAt : ℕ} (fetched : world.calls id = .fetched want key readAt)
    (prompt : world.now ≤ readAt + latency)
    (built : refreshed exportJwk ttlMs key world.now = .ok cached) :
    World.Sound exportJwk ttlMs latency
      { world.move id (want.proceed cached world.now) with
        cache := Function.update world.cache (home id) (some cached) } := by
  obtain ⟨expires, kid, jwks⟩ := of_refreshed built
  have read : world.PhaseOf exportJwk ttlMs latency (.fetched want key readAt) :=
    fetched ▸ sound.calls id
  obtain ⟨before, current⟩ := read
  have holds : world.PhaseOf exportJwk ttlMs latency (want.proceed cached world.now) := by
    refine phaseOf_proceed want key kid jwks fun since => current fun repointed changed => ?_
    have changedAt := since repointed changed
    omega
  refine ⟨fun process other held => ?_, (sound_move sound holds).calls⟩
  dsimp only at held
  by_cases same : process = home id
  · rw [same, Function.update_self, Option.mem_def, Option.some.injEq] at held
    subst held
    exact ⟨key, readAt, before, current, by omega, kid, jwks⟩
  · rw [Function.update_of_ne same] at held
    exact sound.cache process other held

omit [DecidableEq ι] [DecidableEq π] in
/-- A token is signed by the key to which the alias points. -/
theorem phaseOf_signed {kid : String} {takenAt : ℕ}
    (holds : world.PhaseOf exportJwk ttlMs latency (.signing kid takenAt)) :
    world.PhaseOf exportJwk ttlMs latency (.done (.token kid world.target) takenAt) := by
  obtain ⟨key, before, of, current⟩ := holds
  refine ⟨key, before, of, fun since => ⟨current since, fun signer signed => ?_⟩⟩
  exact (Option.some.inj signed).symm

theorem sound_step {past : List (Action ι)} {action : Action ι}
    (sound : world.Sound exportJwk ttlMs latency) (prompt : Prompt latency past world action)
    (taken : step exportJwk ttlMs home world action = some next) :
    next.Sound exportJwk ttlMs latency := by
  cases action with
  | tick elapsed =>
      cases taken
      exact sound_of_leads sound ⟨Nat.le_add_right _ _, fun _ _ since => ⟨since, rfl⟩⟩ rfl rfl
  | repoint key =>
      cases taken
      refine sound_of_leads sound ⟨le_rfl, fun time before since => ?_⟩ rfl rfl
      exact absurd (since world.now rfl) (Nat.not_lt.mpr before)
  | call id want =>
      unfold step at taken
      dsimp only at taken
      split at taken
      · cases taken
        cases live : world.live (home id) with
        | none => exact sound_move sound True.intro
        | some cached => exact sound_move sound (phaseOf_live sound live want)
      · cases taken
  | read id =>
      unfold step at taken
      dsimp only at taken
      split at taken
      · cases taken
        exact sound_move sound ⟨le_rfl, fun _ => rfl⟩
      · cases taken
  | arrive id =>
      unfold step at taken
      unfold Prompt at prompt
      dsimp only at taken prompt
      split at taken
      · rename_i want key readAt fetched
        rw [fetched] at prompt
        have prompt : world.now ≤ readAt + latency := prompt
        split at taken
        · cases taken
          exact sound_move sound True.intro
        · rename_i cached built
          cases taken
          exact sound_arrive sound fetched prompt built
      · cases taken
  | sign id =>
      unfold step at taken
      dsimp only at taken
      split at taken
      · rename_i kid takenAt signing
        cases taken
        have holds := sound.calls id
        rw [signing] at holds
        exact sound_move sound (phaseOf_signed holds)
      · cases taken
  | fail id message =>
      unfold step at taken
      dsimp only at taken
      split at taken
      · cases taken
        exact sound_move sound True.intro
      · cases taken
        exact sound_move sound True.intro
      · cases taken
        exact sound_move sound True.intro
      · cases taken

omit [DecidableEq ι] [DecidableEq π] in
theorem sound_start (now : ℕ) (target : KmsKey) :
    (World.start now target : World ι π).Sound exportJwk ttlMs latency where
  cache _ _ held := by cases held
  calls _ := True.intro

def oldKey : KmsKey :=
  ⟨"arn:aws:kms:us-east-1:123456789012:key/0a1b",
    "MFwwDQYJKoZIhvcNAQEBBQADSwAwSAJBAKttyjRiInw6NQscbj7zUJ12x5OdSVHO" ++
      "QWPBPpYsqcGmkSUURqGSjStsdHvu+jiJUwM5DAoC+IVaXJmAtog+Be0CAwEAAQ=="⟩

def newKey : KmsKey :=
  ⟨"arn:aws:kms:us-east-1:123456789012:key/2c3d",
    "MFwwDQYJKoZIhvcNAQEBBQADSwAwSAJBANCuXT1s7RCo0zTh7s9HDxmJZiC/en68" ++
      "phOzmkyZit+pt3fIT1dYAbAbbbXdR6QnaMBhILzoUnn0SN0P5OPz2NUCAwEAAQ=="⟩

/-- What Node makes of the two public keys. -/
def exportPublicKey (derSpki : String) : Except String ExportedJwk :=
  if derSpki = oldKey.publicKey then
    .ok ⟨some "RSA",
      some ("q23KNGIifDo1CxxuPvNQnXbHk51JUc5BY8E-liypwaa" ++ "RJRRGoZKNK2x0e-76OIlTAzkMCgL4hVpcmYC2iD4F7Q"),
      some "AQAB"⟩
  else if derSpki = newKey.publicKey then
    .ok ⟨some "RSA",
      some ("0K5dPWztEKjTNOHuz0cPGYlmIL96frymE7OaTJmK36m" ++ "3d8hPV1gBsBtttd1HpCdowGEgvOhSefRI3Q_k4_PY1Q"),
      some "AQAB"⟩
  else .error "Failed to read asymmetric key"

/-- The alias is pointed to a new key while a process holds the old one. Ten minutes later a process
signs, and the other publishes. -/
def rotation : List (Action ℕ) :=
  [.call 0 .jwks, .read 0, .arrive 0, .tick 1000, .repoint newKey, .tick 600500, .call 1 .token,
    .read 1, .arrive 1, .sign 1, .call 2 .jwks, .read 2, .arrive 2]

/-- The calls of even number are made in one process, and those of odd number in the other. -/
def rotated : World ℕ Bool :=
  (execute (step exportPublicKey 600000 fun id => id % 2 == 0) (.start 0 oldKey) rotation).getD
    (.start 0 oldKey)

end Panakoes.Auth.Kms
