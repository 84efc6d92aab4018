import Mathlib.Algebra.Order.Ring.Int

/-! # Delivering a webhook

A payload is posted until it is taken or refused, with a wait between the attempts. An attempt ends
with an exception of the HTTP client or with a status. Only the exceptions of one family are caught,
and the factor of the wait is converted to a float.
-/

namespace Panakoes.Notification

/-- The exceptions of the HTTP client: a network error such as `ConnectError` or `ReadTimeout`,
another `httpx.HTTPError` such as `UnsupportedProtocol`, and one outside this family, such as
`httpx.InvalidURL` or a `TypeError` of the payload. -/
inductive ExceptionKind where
  | network
  | otherHttpError
  | outside
  deriving DecidableEq

/-- An exception, with the name of its type and its text. -/
structure ClientException where
  kind : ExceptionKind
  typeName : String
  text : String

/-- How an attempt ends. -/
inductive Attempt where
  | raised (exception : ClientException)
  | answered (statusCode : ℕ)

/-- `WebhookResult`. -/
structure WebhookResult where
  success : Bool
  attempts : ℕ
  statusCode : Option ℕ
  error : Option String

/-- What escapes from `post`: an exception of the client, or the `OverflowError` of the wait. -/
inductive PostError where
  | client (exception : ClientException)
  | overflow

/-- `max(1, max_attempts)`. -/
def effectiveAttempts (maxAttempts : ℤ) : ℕ := (max 1 maxAttempts).toNat

/-- `2 ** (attempt - 1)` is too large for a float. -/
def BackoffOverflows (attempt : ℕ) : Prop := 1024 < attempt

instance : DecidablePred BackoffOverflows := fun _ => inferInstanceAs (Decidable (_ < _))

/-- `200 <= status_code < 300`. -/
def IsSuccess : Attempt → Prop
  | .answered statusCode => 200 ≤ statusCode ∧ statusCode < 300
  | .raised _ => False

/-- `400 <= status_code < 500`. -/
def IsRejection : Attempt → Prop
  | .answered statusCode => 400 ≤ statusCode ∧ statusCode < 500
  | .raised _ => False

instance : DecidablePred IsSuccess
  | .answered _ => inferInstanceAs (Decidable (_ ∧ _))
  | .raised _ => inferInstanceAs (Decidable False)

instance : DecidablePred IsRejection
  | .answered _ => inferInstanceAs (Decidable (_ ∧ _))
  | .raised _ => inferInstanceAs (Decidable False)

/-- `isinstance(exc, httpx.HTTPError)`, or no exception. -/
def Caught : Attempt → Prop
  | .raised exception => exception.kind ≠ .outside
  | .answered _ => True

/-- `last_status` after an attempt. -/
def Attempt.lastStatus : Attempt → Option ℕ
  | .raised _ => none
  | .answered statusCode => some statusCode

/-- `last_error` after an attempt. -/
def Attempt.lastError : Attempt → String
  | .raised exception => s!"{exception.typeName}: {exception.text}"
  | .answered statusCode => s!"HTTP {statusCode}"

/-- The loop of `post` from an attempt on, with as many attempts left: how many requests have been
sent when it ends, and how it ends. -/
def attempts (maximum : ℕ) (outcomes : ℕ → Attempt) :
    ℕ → ℕ → Option ℕ → Option String → ℕ × Except PostError WebhookResult
  | 0, attempt, lastStatus, lastError =>
      (attempt - 1, .ok ⟨false, maximum, lastStatus, lastError⟩)
  | left + 1, attempt, _, _ =>
      match outcomes attempt with
      | .raised exception =>
          if exception.kind = .outside then (attempt, .error (.client exception))
          else if attempt < maximum ∧ BackoffOverflows attempt then (attempt, .error .overflow)
          else attempts maximum outcomes left (attempt + 1) none
            (some (Attempt.raised exception).lastError)
      | .answered statusCode =>
          if 200 ≤ statusCode ∧ statusCode < 300 then
            (attempt, .ok ⟨true, attempt, some statusCode, none⟩)
          else if 400 ≤ statusCode ∧ statusCode < 500 then
            (attempt, .ok ⟨false, attempt, some statusCode,
              some (Attempt.answered statusCode).lastError⟩)
          else if attempt < maximum ∧ BackoffOverflows attempt then (attempt, .error .overflow)
          else attempts maximum outcomes left (attempt + 1) (some statusCode)
            (some (Attempt.answered statusCode).lastError)

/-- `WebhookClient.post`, where the attempts end so. -/
def post (maxAttempts : ℤ) (outcomes : ℕ → Attempt) : ℕ × Except PostError WebhookResult :=
  attempts (effectiveAttempts maxAttempts) outcomes (effectiveAttempts maxAttempts) 1 none none

/-! ## The policy -/

/-- A network error, or an answer of the 5xx class. -/
def Retriable : Attempt → Prop
  | .raised exception => exception.kind = .network
  | .answered statusCode => 500 ≤ statusCode ∧ statusCode < 600

instance : DecidablePred Retriable
  | .raised _ => inferInstanceAs (Decidable (_ = _))
  | .answered _ => inferInstanceAs (Decidable (_ ∧ _))

/-- The policy of a delivery that starts with an attempt. -/
structure Follows (maximum : ℕ) (outcomes : ℕ → Attempt) (first : ℕ)
    (ended : ℕ × Except PostError WebhookResult) : Prop where
  returns : ∃ result, ended.2 = .ok result ∧ result.attempts = ended.1 ∧
    (result.success = true ↔ first ≤ ended.1 ∧ IsSuccess (outcomes ended.1))
  bounded : ended.1 ≤ maximum
  retried : ∀ attempt, first ≤ attempt → attempt < ended.1 → Retriable (outcomes attempt)
  stopped : ∀ attempt, first ≤ attempt → attempt ≤ ended.1 →
    IsSuccess (outcomes attempt) ∨ IsRejection (outcomes attempt) → attempt = ended.1

/-- An attempt decides the delivery, or is the last one and caught, or is one to retry after. -/
def Settles (maximum attempt : ℕ) (outcome : Attempt) : Prop :=
  IsSuccess outcome ∨ IsRejection outcome ∨ (Caught outcome ∧ attempt = maximum) ∨
    (Retriable outcome ∧ ¬ BackoffOverflows attempt)

/-- Every attempt that is reached by retrying from the first one settles. -/
def Orderly (maximum : ℕ) (outcomes : ℕ → Attempt) (first : ℕ) : Prop :=
  ∀ attempt, first ≤ attempt → attempt ≤ maximum →
    (∀ earlier, first ≤ earlier → earlier < attempt → Retriable (outcomes earlier)) →
      Settles maximum attempt (outcomes attempt)

variable {maximum attempt left : ℕ} {outcomes : ℕ → Attempt} {outcome : Attempt}
  {lastStatus : Option ℕ} {lastError : Option String}

theorem not_retriable_of_final (final : IsSuccess outcome ∨ IsRejection outcome) :
    ¬ Retriable outcome := by
  cases outcome with
  | raised exception => exact absurd final (by simp [IsSuccess, IsRejection])
  | answered statusCode =>
      unfold IsSuccess IsRejection at final
      unfold Retriable
      omega

/-- An attempt that is taken or refused ends the loop. -/
theorem attempts_of_final (final : IsSuccess (outcomes attempt) ∨ IsRejection (outcomes attempt)) :
    ∃ result, attempts maximum outcomes (left + 1) attempt lastStatus lastError =
        (attempt, .ok result) ∧ result.attempts = attempt ∧
      (result.success = true ↔ IsSuccess (outcomes attempt)) := by
  rw [attempts]
  cases ended : outcomes attempt with
  | raised exception =>
      rw [ended] at final
      exact absurd final (not_or.mpr ⟨id, id⟩)
  | answered statusCode =>
      rw [ended] at final
      dsimp only
      by_cases success : 200 ≤ statusCode ∧ statusCode < 300
      · rw [if_pos success]
        exact ⟨_, rfl, rfl, iff_of_true rfl success⟩
      · have rejection : 400 ≤ statusCode ∧ statusCode < 500 := final.resolve_left success
        rw [if_neg success, if_pos rejection]
        exact ⟨_, rfl, rfl, iff_of_false Bool.false_ne_true success⟩

/-- An exception that is not caught escapes. -/
theorem attempts_of_escape (escapes : ¬ Caught (outcomes attempt)) :
    ∃ error, attempts maximum outcomes (left + 1) attempt lastStatus lastError =
      (attempt, .error error) := by
  rw [attempts]
  cases ended : outcomes attempt with
  | raised exception =>
      rw [ended] at escapes
      dsimp only
      rw [if_pos (not_not.mp escapes)]
      exact ⟨_, rfl⟩
  | answered statusCode =>
      rw [ended] at escapes
      exact absurd True.intro escapes

/-- After any other attempt the loop waits and goes on. -/
theorem attempts_of_open (caught : Caught (outcomes attempt))
    (unsettled : ¬ (IsSuccess (outcomes attempt) ∨ IsRejection (outcomes attempt))) :
    attempts maximum outcomes (left + 1) attempt lastStatus lastError =
      if attempt < maximum ∧ BackoffOverflows attempt then (attempt, .error .overflow)
      else attempts maximum outcomes left (attempt + 1) (outcomes attempt).lastStatus
        (some (outcomes attempt).lastError) := by
  rw [attempts]
  cases ended : outcomes attempt with
  | raised exception =>
      rw [ended] at caught
      dsimp only
      rw [if_neg caught]
      rfl
  | answered statusCode =>
      rw [ended, not_or] at unsettled
      have untaken : ¬ (200 ≤ statusCode ∧ statusCode < 300) := unsettled.1
      have unrefused : ¬ (400 ≤ statusCode ∧ statusCode < 500) := unsettled.2
      dsimp only
      rw [if_neg untaken, if_neg unrefused]
      rfl

/-- The loop sends the attempts that it reaches. -/
theorem le_attempts : attempt ≤
    (attempts maximum outcomes (left + 1) attempt lastStatus lastError).1 := by
  induction left generalizing attempt lastStatus lastError with
  | zero =>
      by_cases final : IsSuccess (outcomes attempt) ∨ IsRejection (outcomes attempt)
      · obtain ⟨result, ended, -⟩ := attempts_of_final final
        rw [ended]
      · by_cases caught : Caught (outcomes attempt)
        · rw [attempts_of_open caught final]
          split
          · exact le_refl attempt
          · exact le_refl attempt
        · obtain ⟨error, ended⟩ := attempts_of_escape caught
          rw [ended]
  | succ left ih =>
      by_cases final : IsSuccess (outcomes attempt) ∨ IsRejection (outcomes attempt)
      · obtain ⟨result, ended, -⟩ := attempts_of_final final
        rw [ended]
      · by_cases caught : Caught (outcomes attempt)
        · rw [attempts_of_open caught final]
          split
          · exact le_refl attempt
          · exact (Nat.le_succ attempt).trans ih
        · obtain ⟨error, ended⟩ := attempts_of_escape caught
          rw [ended]

/-! ## When the policy is followed -/

theorem not_settles_of_escape (escapes : ¬ Caught outcome) : ¬ Settles maximum attempt outcome := by
  cases outcome with
  | answered statusCode => exact absurd True.intro escapes
  | raised exception =>
      have outside : exception.kind = .outside := not_not.mp escapes
      rintro (taken | refused | ⟨caught, -⟩ | ⟨retriable, -⟩)
      · exact taken
      · exact refused
      · exact escapes caught
      · exact absurd (outside.symm.trans retriable) (by decide)

/-- A delivery that goes on has to be followed from the next attempt on. -/
theorem follows_succ_iff {ended : ℕ × Except PostError WebhookResult} (later : attempt < ended.1)
    (unsettled : ¬ (IsSuccess (outcomes attempt) ∨ IsRejection (outcomes attempt))) :
    Follows maximum outcomes attempt ended ↔
      Retriable (outcomes attempt) ∧ Follows maximum outcomes (attempt + 1) ended := by
  constructor
  · intro follows
    obtain ⟨result, returned, counted, taken⟩ := follows.returns
    refine ⟨follows.retried attempt (le_refl attempt) later, ⟨result, returned, counted, ?_⟩,
      follows.bounded, ?_, ?_⟩
    · rw [taken, and_iff_right later.le, and_iff_right (Nat.succ_le_of_lt later)]
    · intro other after before
      exact follows.retried other (Nat.le_of_succ_le after) before
    · intro other after before final
      exact follows.stopped other (Nat.le_of_succ_le after) before final
  · rintro ⟨retriable, follows⟩
    obtain ⟨result, returned, counted, taken⟩ := follows.returns
    refine ⟨⟨result, returned, counted, ?_⟩, follows.bounded, ?_, ?_⟩
    · rw [taken, and_iff_right later.le, and_iff_right (Nat.succ_le_of_lt later)]
    · intro other after before
      rcases after.eq_or_lt with same | after
      · exact same ▸ retriable
      · exact follows.retried other after before
    · intro other after before final
      rcases after.eq_or_lt with same | after
      · rw [← same] at final
        exact absurd final unsettled
      · exact follows.stopped other after before final

theorem orderly_succ_iff (earlier : attempt < maximum) (waits : ¬ BackoffOverflows attempt)
    (unsettled : ¬ (IsSuccess (outcomes attempt) ∨ IsRejection (outcomes attempt))) :
    Orderly maximum outcomes attempt ↔
      Retriable (outcomes attempt) ∧ Orderly maximum outcomes (attempt + 1) := by
  constructor
  · intro orderly
    have retriable : Retriable (outcomes attempt) := by
      have settles := orderly attempt (le_refl attempt) earlier.le fun other after before =>
        absurd after (Nat.not_le.mpr before)
      rcases settles with taken | refused | ⟨-, last⟩ | ⟨retriable, -⟩
      · exact absurd (Or.inl taken) unsettled
      · exact absurd (Or.inr refused) unsettled
      · exact absurd last earlier.ne
      · exact retriable
    refine ⟨retriable, fun other after within retried => ?_⟩
    apply orderly other (Nat.le_of_succ_le after) within
    intro third afterFirst before
    rcases afterFirst.eq_or_lt with same | afterFirst
    · exact same ▸ retriable
    · exact retried third afterFirst before
  · rintro ⟨retriable, orderly⟩ other after within retried
    rcases after.eq_or_lt with same | after
    · rw [← same]
      exact Or.inr (Or.inr (Or.inr ⟨retriable, waits⟩))
    · exact orderly other after within fun third afterFirst before =>
        retried third (Nat.le_of_succ_le afterFirst) before

/-- An attempt that does not settle breaks the order. -/
theorem not_orderly (within : attempt ≤ maximum)
    (unsettled : ¬ Settles maximum attempt (outcomes attempt)) :
    ¬ Orderly maximum outcomes attempt := by
  intro orderly
  exact unsettled (orderly attempt (le_refl attempt) within fun other after before =>
    absurd after (Nat.not_le.mpr before))

/-- A delivery that raises does not follow the policy. -/
theorem not_follows_of_error {sent first : ℕ} {error : PostError} :
    ¬ Follows maximum outcomes first (sent, .error error) := by
  intro follows
  obtain ⟨result, returned, -⟩ := follows.returns
  cases returned

/-- A delivery that ends with an attempt follows the policy from that attempt on. -/
theorem follows_single {result : WebhookResult} (within : attempt ≤ maximum)
    (counted : result.attempts = attempt)
    (taken : result.success = true ↔ IsSuccess (outcomes attempt)) :
    Follows maximum outcomes attempt (attempt, .ok result) where
  returns := ⟨result, rfl, counted, taken.trans (and_iff_right (le_refl attempt)).symm⟩
  bounded := within
  retried _ after before := absurd after (Nat.not_le.mpr before)
  stopped _ after before _ := le_antisymm before after

/-- With no attempt left, the delivery has ended as a failure after the maximum. -/
theorem follows_of_none_left (last : attempt = maximum + 1) :
    Follows maximum outcomes attempt
      (attempts maximum outcomes 0 attempt lastStatus lastError) := by
  have sent : attempt - 1 = maximum := Nat.sub_eq_of_eq_add last
  rw [attempts, sent]
  refine ⟨⟨_, rfl, rfl, ?_⟩, le_refl maximum, ?_, ?_⟩
  · exact iff_of_false Bool.false_ne_true fun taken => absurd taken.1 (by omega)
  · intro other after before
    omega
  · intro other after before
    omega

/-- The last attempt, when it is caught and decides nothing. -/
theorem follows_of_last (last : attempt = maximum)
    (unsettled : ¬ (IsSuccess (outcomes attempt) ∨ IsRejection (outcomes attempt))) :
    Follows maximum outcomes attempt
      (attempts maximum outcomes 0 (attempt + 1) lastStatus lastError) := by
  rw [attempts, Nat.add_sub_cancel]
  exact follows_single last.le last.symm
    (iff_of_false Bool.false_ne_true fun taken => unsettled (Or.inl taken))

/-- The loop follows the policy from an attempt on exactly when the attempts are orderly from it on. -/
theorem follows_attempts_iff (started : 1 ≤ attempt) (count : attempt + left = maximum + 1) :
    Follows maximum outcomes attempt (attempts maximum outcomes left attempt lastStatus lastError) ↔
      Orderly maximum outcomes attempt := by
  induction left generalizing attempt lastStatus lastError with
  | zero =>
      apply iff_of_true
      · exact follows_of_none_left (by omega)
      · intro other after within
        omega
  | succ left ih =>
      have within : attempt ≤ maximum := by omega
      by_cases final : IsSuccess (outcomes attempt) ∨ IsRejection (outcomes attempt)
      · obtain ⟨result, ended, counted, taken⟩ := attempts_of_final final
        rw [ended]
        apply iff_of_true (follows_single within counted taken)
        intro other after _ retried
        rcases after.eq_or_lt with same | after
        · rw [← same]
          exact final.elim Or.inl fun refused => Or.inr (Or.inl refused)
        · exact absurd (retried attempt (le_refl attempt) after) (not_retriable_of_final final)
      · by_cases caught : Caught (outcomes attempt)
        · rw [attempts_of_open caught final]
          split
          · rename_i overflows
            apply iff_of_false not_follows_of_error
            apply not_orderly within
            rintro (taken | refused | ⟨-, last⟩ | ⟨-, waits⟩)
            · exact final (Or.inl taken)
            · exact final (Or.inr refused)
            · exact overflows.1.ne last
            · exact waits overflows.2
          · rename_i proceeds
            by_cases last : attempt = maximum
            · have noneLeft : left = 0 := by omega
              subst noneLeft
              apply iff_of_true
              · exact follows_of_last last final
              · intro other after before _
                have same : other = attempt := le_antisymm (before.trans last.ge) after
                rw [same]
                exact Or.inr (Or.inr (Or.inl ⟨caught, last⟩))
            · have earlier : attempt < maximum := lt_of_le_of_ne within last
              have waits : ¬ BackoffOverflows attempt := fun overflows =>
                proceeds ⟨earlier, overflows⟩
              obtain ⟨k, rfl⟩ : ∃ k, left = k + 1 := Nat.exists_eq_succ_of_ne_zero (by omega)
              have later : attempt < (attempts maximum outcomes (k + 1) (attempt + 1)
                  (outcomes attempt).lastStatus (some (outcomes attempt).lastError)).1 :=
                Nat.lt_of_succ_le le_attempts
              rw [follows_succ_iff later final, orderly_succ_iff earlier waits final]
              exact and_congr_right fun _ => ih (by omega) (by omega)
        · obtain ⟨error, ended⟩ := attempts_of_escape caught
          rw [ended]
          exact iff_of_false not_follows_of_error
            (not_orderly within (not_settles_of_escape caught))

/-- **Delivery policy.** A delivery keeps the policy exactly when the attempts are orderly: the first
one, up to the last permitted, that is neither a network error nor a 5xx answer is taken or refused, or
is the last permitted and caught, and no wait after an earlier one has a factor too large for a
float. -/
theorem post_follows_iff (maxAttempts : ℤ) (outcomes : ℕ → Attempt) :
    Follows (effectiveAttempts maxAttempts) outcomes 1 (post maxAttempts outcomes) ↔
      Orderly (effectiveAttempts maxAttempts) outcomes 1 :=
  follows_attempts_iff (le_refl 1) (Nat.add_comm _ _)

/-- A URL with a line break makes the client raise `InvalidURL`, which is no `httpx.HTTPError`. -/
def lineBreakInUrl : Attempt :=
  .raised ⟨.outside, "InvalidURL",
    "Invalid non-printable ASCII character in URL, '\\n' at position 27."⟩

/-- The delivery to such a URL raises. -/
theorem not_follows_invalidUrl : ¬ ∀ (maxAttempts : ℤ) (outcomes : ℕ → Attempt),
    Follows (effectiveAttempts maxAttempts) outcomes 1 (post maxAttempts outcomes) := by
  intro follows
  have raised : post 3 (fun _ => lineBreakInUrl) = (1, .error (.client
      ⟨.outside, "InvalidURL",
        "Invalid non-printable ASCII character in URL, '\\n' at position 27."⟩)) := rfl
  have delivered := follows 3 fun _ => lineBreakInUrl
  rw [raised] at delivered
  exact not_follows_of_error delivered

end Panakoes.Notification
