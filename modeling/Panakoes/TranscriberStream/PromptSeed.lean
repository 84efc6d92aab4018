import Mathlib.Data.List.Infix
import Panakoes.Foundation.Run
import Panakoes.TranscriberStream.OnlineAsr

/-! # The prompt seed

`SeededOnlineASRProcessor` gives the seed to the recogniser while no token is committed. The reset
against freezing empties the committed tokens, and so the seed comes back in a session that has
committed tokens before.
-/

namespace Panakoes.TranscriberStream.OnlineAsr

open Transition

/-- The seed that the processor keeps. Without a text it is empty. -/
def promptSeed (promptSeedText : Option (List Char)) : List Char :=
  PyText.strip (promptSeedText.getD [])

/-- `prompt` of `SeededOnlineASRProcessor`. -/
def seededPrompt (asr : Asr) (seed : List Char) (online : Processor) : List Char × List Char :=
  let base := online.prompt asr
  if seed ≠ [] ∧ online.committed = [] then (PyText.strip (seed ++ [' '] ++ base.1), base.2)
  else base

/-- A session: the processor, and all the tokens that have been committed, also those that a reset
has forgotten. -/
structure Session where
  online : Processor
  spoken : List Token

inductive Action where
  | insertAudioChunk (samples : ℕ)
  | processIter (outcome : Option Transcription)

def Session.start : Session := ⟨.init none, []⟩

/-- One call. -/
def step (asr : Asr) (session : Session) : Action → Option Session
  | .insertAudioChunk samples =>
      some { session with online := session.online.insertAudioChunk samples }
  | .processIter outcome =>
      some
        { online := (session.online.processIter asr outcome).1
          spoken := session.spoken ++
            (outcome.map fun res => (session.online.commit asr res).1).getD [] }

/-- A token that the recogniser has returned in the run, moved by an offset. -/
def FromAsr (past : List Action) (token : Token) : Prop :=
  ∃ res, Action.processIter (some res) ∈ past ∧
    ∃ heard ∈ res.tokens, ∃ offset, token = heard.withOffset offset

/-- The prompt of a call starts with the seed before the first token is committed, and does not
contain it afterwards. A seed without text is none. -/
def Prompted (asr : Asr) (seed : List Char) (_ : List Action) (session : Session) : Action → Prop
  | .insertAudioChunk _ => True
  | .processIter _ =>
      (session.spoken = [] → seed <+: (seededPrompt asr seed session.online).1) ∧
        (session.spoken ≠ [] → seed ≠ [] →
          ¬ seed <:+: (seededPrompt asr seed session.online).1)

/-- No reset has emptied the committed tokens. -/
def Unreset (seed : List Char) (_ : List Action) (session : Session) : Action → Prop
  | .insertAudioChunk _ => True
  | .processIter _ => session.spoken ≠ [] → seed ≠ [] → session.online.committed ≠ []

/-- The committed text does not contain the seed. -/
def Unspoken (asr : Asr) (seed : List Char) (_ : List Action) (session : Session) : Action → Prop
  | .insertAudioChunk _ => True
  | .processIter _ =>
      session.spoken ≠ [] → seed ≠ [] → ¬ seed <:+: textOf asr.sep session.online.committed

instance Prompted.decidable (asr : Asr) (seed : List Char) (past : List Action)
    (session : Session) : ∀ action, Decidable (Prompted asr seed past session action)
  | .insertAudioChunk _ => inferInstanceAs (Decidable True)
  | .processIter _ => inferInstanceAs (Decidable ((_ → _) ∧ (_ → _ → ¬ _)))

variable {asr : Asr} {text : Option (List Char)} {seed : List Char} {session after : Session}
  {action : Action}

/-- Where nothing is committed, the prompt is the seed. -/
theorem seededPrompt_of_uncommitted {online : Processor} (uncommitted : online.committed = []) :
    (seededPrompt asr (promptSeed text) online).1 = promptSeed text := by
  have base : (online.prompt asr).1 = [] := prompt_of_committed_eq_nil uncommitted
  unfold seededPrompt
  dsimp only
  split
  · dsimp only
    rw [base, List.append_nil]
    exact PyText.strip_strip_concat (by decide) _
  · rename_i unseeded
    rw [base]
    exact (not_not.mp fun seeded => unseeded ⟨seeded, uncommitted⟩).symm

/-- Where something is committed, the prompt is a part of it. -/
theorem seededPrompt_isInfix {online : Processor} (committed : online.committed ≠ []) :
    (seededPrompt asr seed online).1 <:+: textOf asr.sep online.committed := by
  unfold seededPrompt
  dsimp only
  rw [if_neg fun seeded => committed seeded.2]
  exact prompt_isInfix

/-- In a session that has not committed a token, the processor has none. -/
theorem uncommitted_step (before : session.spoken = [] → session.online.committed = [])
    (taken : step asr session action = some after) :
    after.spoken = [] → after.online.committed = [] := by
  intro silent
  cases action with
  | insertAudioChunk samples =>
      cases taken
      exact before silent
  | processIter outcome =>
      cases taken
      obtain ⟨early, now⟩ := List.append_eq_nil_iff.mp silent
      cases outcome with
      | none => exact before early
      | some res =>
          rcases committed_processIter asr session.online res with
            ⟨-, emptied⟩ | added
          · exact emptied
          · have nothing : (session.online.commit asr res).1 = [] := now
            exact added.trans (by rw [before early, nothing, List.append_nil])

/-- All that the processor has committed comes from the recogniser. -/
theorem fromAsr_of_execute {actions : List Action}
    (run : execute (step asr) .start actions = some session) :
    ∀ token ∈ session.online.committed, FromAsr actions token := by
  have meets : Meets (step asr) (fun _ _ _ => True) [] .start actions := Meets.trivial
  refine execute_induction
    (motive := fun past session => ∀ token ∈ session.online.committed, FromAsr past token)
    (fun token member => absurd member List.not_mem_nil) ?_ meets run
  intro past before action after _ every _ taken token member
  have still : token ∈ before.online.committed → FromAsr (past ++ [action]) token := by
    intro early
    obtain ⟨res, called, heard⟩ := every token early
    exact ⟨res, List.mem_append_left _ called, heard⟩
  cases action with
  | insertAudioChunk samples =>
      cases taken
      exact still member
  | processIter outcome =>
      cases taken
      cases outcome with
      | none => exact still member
      | some res =>
          dsimp only at member
          rcases committed_processIter asr before.online res with
            ⟨-, emptied⟩ | added
          · rw [emptied] at member
            exact absurd member List.not_mem_nil
          · rw [added] at member
            rcases List.mem_append.mp member with early | now
            · exact still early
            · obtain ⟨heard, present, same⟩ := mem_commit now
              exact ⟨res, List.mem_append_right _ List.mem_cons_self, heard, present, _, same⟩

/-- **The seed is given once.** Only the recogniser's tokens are committed. The prompts are as they
should be in every run in which no reset empties the committed tokens and the seed's own words are
not committed, and where they are as they should be there is no such reset. -/
theorem seed_given_once (asr : Asr) (text : Option (List Char)) (actions : List Action) :
    (∀ session ∈ execute (step asr) .start actions, ∀ token ∈ session.online.committed,
        FromAsr actions token) ∧
      (Meets (step asr) (Unreset (promptSeed text)) [] .start actions →
        Meets (step asr) (Unspoken asr (promptSeed text)) [] .start actions →
          Meets (step asr) (Prompted asr (promptSeed text)) [] .start actions) ∧
      (Meets (step asr) (Prompted asr (promptSeed text)) [] .start actions →
        Meets (step asr) (Unreset (promptSeed text)) [] .start actions) := by
  refine ⟨fun session run => fromAsr_of_execute run, fun unreset unspoken => ?_, fun prompted => ?_⟩
  · have initial : Session.start.spoken = [] → Session.start.online.committed = [] := fun _ => rfl
    refine Meets.of_invariant initial (fun _ _ _ _ before _ => uncommitted_step before) ?_
      (unreset.and unspoken)
    intro past session action uncommitted ⟨kept, unheard⟩
    cases action with
    | insertAudioChunk samples => exact True.intro
    | processIter outcome =>
        refine ⟨fun silent => ?_, fun spoken seeded found => ?_⟩
        · exact (seededPrompt_of_uncommitted (uncommitted silent)).symm ▸ List.prefix_rfl
        · exact unheard spoken seeded (found.trans (seededPrompt_isInfix (kept spoken seeded)))
  · have initial : (fun _ : Session => True) Session.start := True.intro
    refine Meets.of_invariant initial (fun _ _ _ _ _ _ _ => True.intro) ?_ prompted
    intro past session action _ meets
    cases action with
    | insertAudioChunk samples => exact True.intro
    | processIter outcome =>
        intro spoken seeded uncommitted
        refine meets.2 spoken seeded ?_
        exact (seededPrompt_of_uncommitted uncommitted).symm ▸ List.infix_rfl

/-- The recogniser as the service configures it, without a tokenizer. -/
def segmentAsr : Asr := ⟨[], none, false, .segment, 15, by norm_num⟩

/-- A word is committed, half a minute of silence follows, and the processor is called again. -/
def silentStretch : List Action :=
  let word : Token := ⟨['a'], 0, 1, none⟩
  [.insertAudioChunk 32000, .processIter (some ⟨[word], [1]⟩), .processIter (some ⟨[word], [1]⟩),
    .insertAudioChunk 480000, .processIter (some ⟨[], []⟩), .processIter (some ⟨[], []⟩)]

/-- Behind the silence the prompt is the seed again. -/
theorem seed_given_again :
    ¬ ∀ (asr : Asr) (text : Option (List Char)) (actions : List Action),
      Meets (step asr) (Prompted asr (promptSeed text)) [] .start actions := by
  intro every
  have meets := every segmentAsr (some ['s']) silentStretch
  revert meets
  decide +kernel

end Panakoes.TranscriberStream.OnlineAsr
