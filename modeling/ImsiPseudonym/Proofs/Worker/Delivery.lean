import Mathlib.Data.List.Perm.Basic
import ImsiPseudonym.Proofs.Worker.Standing

/-!
What becomes of the answers.  A worker sends each answer once: a future yields it, or a runtime calls
the callback with it, unless the future was dropped beforehand.
-/
namespace ImsiPseudonym

inductive Outcome where
  | yielded (result : Except WorkerError (Option Grant))
  | called (call : CallbackCall)

/-- The outcome of a job whose fetch has come to a result. -/
def Job.outcome (job : Job) (result : FetchResult) : Outcome :=
  match job.channel with
  | .future => .yielded (yielded result)
  | .callback => .called (.ofResult job.carrier result)

namespace Worker

/-- What the future of a job has been given. -/
def letters (w : Worker) (number : Nat) : List Outcome :=
  (w.inbox.filter fun letter => letter.1 = number).map fun letter => .yielded (yielded letter.2)

/-- The calls that the callback of a job has got. -/
def callsOf (w : Worker) (number : Nat) : List Outcome :=
  (w.calls.filter fun call => call.1 = number).map fun call => .called call.2

/-- The calls that the callback of a job has still to get. -/
def due (w : Worker) (number : Nat) : List Outcome :=
  (w.deliveries.filter fun delivery => delivery.1.number = number).map fun delivery =>
    .called (.ofResult delivery.1.carrier delivery.2)

/-- All that was ever sent in answer to a job. -/
def sent (w : Worker) (number : Nat) : List Outcome :=
  w.letters number ++ w.callsOf number ++ w.due number

/-- An answered job has been sent its outcome once, but a future that was dropped may have missed it;
a job that is not answered has been sent nothing. -/
inductive Hears (w : Worker) (number : Nat) : Option (Job × FetchResult) → Prop where
  | nothing (h : w.sent number = []) : Hears w number none
  | once {job : Job} {result : FetchResult} (h : w.sent number = [job.outcome result]) :
      Hears w number (some (job, result))
  | missed {job : Job} {result : FetchResult} (hchannel : job.channel = .future)
      (hforgotten : number ∈ w.forgotten) (h : w.sent number = []) :
      Hears w number (some (job, result))

variable {w next : Worker} {number : Nat}

theorem Hears.of_perm {answer : Option (Job × FetchResult)} (h : w.Hears number answer)
    (hsent : (next.sent number).Perm (w.sent number))
    (hforgotten : number ∈ w.forgotten → number ∈ next.forgotten) : next.Hears number answer := by
  cases h with
  | nothing h =>
      rw [h] at hsent
      exact .nothing hsent.eq_nil
  | once h =>
      rw [h] at hsent
      exact .once (List.perm_singleton.mp hsent)
  | missed hchannel hmem h =>
      rw [h] at hsent
      exact .missed hchannel (hforgotten hmem) hsent.eq_nil

theorem Hears.length_sent_le {answer : Option (Job × FetchResult)} (h : w.Hears number answer) :
    (w.sent number).length ≤ 1 := by
  cases h with
  | nothing h => simp [h]
  | once h => simp [h]
  | missed _ _ h => simp [h]

theorem sent_reply?_of_ne (h : w.reply? = some next)
    (hheld : ∀ held ∈ w.phase.held, held.1.number ≠ number) : next.sent number = w.sent number := by
  obtain ⟨job, result, hphase, hcases⟩ := eq_of_reply? h
  have hne : job.number ≠ number := hheld (job, result) (by simp [hphase, Phase.held])
  rcases hcases with ⟨-, -, rfl⟩ | ⟨-, rfl⟩ | ⟨-, rfl⟩
  · rfl
  · simp [sent, letters, callsOf, due, hne]
  · simp [sent, letters, callsOf, due, hne]

/-- A job for which nothing was sent before is sent its outcome, unless its future was dropped. -/
theorem hears_reply? {job : Job} {result : FetchResult} (h : w.reply? = some next)
    (hheld : w.phase.held = [(job, result)]) (hbefore : w.sent job.number = []) :
    next.Hears job.number (some (job, result)) := by
  obtain ⟨job', result', hphase, hcases⟩ := eq_of_reply? h
  rw [hphase] at hheld
  obtain ⟨rfl, rfl⟩ : job' = job ∧ result' = result := by simpa [Phase.held] using hheld
  have hparts := hbefore
  simp only [sent, List.append_eq_nil_iff] at hparts
  obtain ⟨⟨hletters, hcalls⟩, hdue⟩ := hparts
  rcases hcases with ⟨hchannel, hmem, rfl⟩ | ⟨hchannel, rfl⟩ | ⟨hchannel, rfl⟩
  · exact .missed hchannel hmem hbefore
  · have hnew : letters { w with phase := .idle, inbox := w.inbox ++ [(job'.number, result')] }
        job'.number = w.letters job'.number ++ [.yielded (yielded result')] := by
      simp [letters]
    refine .once ?_
    rw [sent, hnew, hletters, Job.outcome, hchannel]
    exact congrArg₂ (fun calls due => .yielded (yielded result') :: (calls ++ due)) hcalls hdue
  · have hnew : due { w with phase := .idle, deliveries := w.deliveries ++ [(job', result')] }
        job'.number = w.due job'.number ++ [.called (.ofResult job'.carrier result')] := by
      simp [due]
    refine .once ?_
    rw [sent, hnew, hdue, Job.outcome, hchannel]
    exact congrArg₂ (fun letters calls => letters ++ calls ++ _) hletters hcalls

theorem Hears.sent_eq_nil (h : w.Hears number none) : w.sent number = [] := by
  cases h with
  | nothing h => exact h

/-- An answer keeps the order: it goes to the job behind those already answered. -/
theorem hears_append_held {answered : List (Job × FetchResult)} (h : w.reply? = some next)
    (hw : ∀ number, w.Hears number answered[number]?)
    (hnumber : ∀ held ∈ w.phase.held, held.1.number = answered.length) (number : Nat) :
    next.Hears number (answered ++ w.phase.held)[number]? := by
  obtain ⟨job, result, hphase, hcases⟩ := eq_of_reply? h
  have hheld : w.phase.held = [(job, result)] := by rw [hphase, Phase.held]
  rw [hheld] at hnumber ⊢
  have hlast : job.number = answered.length := hnumber (job, result) (by simp)
  by_cases heq : number = answered.length
  · subst heq
    rw [List.getElem?_concat_length]
    have hbefore := hw answered.length
    rw [List.getElem?_eq_none (Nat.le_refl _)] at hbefore
    rw [← hlast] at hbefore ⊢
    exact hears_reply? h hheld hbefore.sent_eq_nil
  · have hsame : (answered ++ [(job, result)])[number]? = answered[number]? := by
      by_cases hlt : number < answered.length
      · exact List.getElem?_append_left hlt
      · rw [List.getElem?_eq_none (by simp; omega), List.getElem?_eq_none (by omega)]
    have hsent : next.sent number = w.sent number := by
      apply sent_reply?_of_ne h
      rw [hheld]
      intro held hmem
      rw [List.mem_singleton.mp hmem, hlast]
      exact Ne.symm heq
    rw [hsame]
    refine (hw number).of_perm (by rw [hsent]) ?_
    rcases hcases with ⟨-, -, rfl⟩ | ⟨-, rfl⟩ | ⟨-, rfl⟩ <;> exact id

/-- A delivery only takes a call from those that are due. -/
theorem sent_deliver? {place : Nat} (h : w.deliver? place = some next) (number : Nat) :
    (next.sent number).Perm (w.sent number) := by
  obtain ⟨job, result, hplace, rfl⟩ := eq_of_deliver? h
  obtain ⟨hlt, hjob⟩ := List.getElem?_eq_some_iff.mp hplace
  have hperm : ((job, result) :: w.deliveries.eraseIdx place).Perm w.deliveries := by
    rw [← hjob]
    exact List.getElem_cons_eraseIdx_perm hlt
  have hdue := (hperm.filter fun delivery => delivery.1.number = number).map
    fun delivery => Outcome.called (.ofResult delivery.1.carrier delivery.2)
  simp only [sent, callsOf, due, List.filter_append, List.map_append, List.append_assoc]
  refine (List.Perm.append_left _ (List.Perm.append_left _ ?_))
  by_cases hnumber : job.number = number
  · simpa [hnumber] using hdue
  · simpa [hnumber] using hdue

theorem Step.hears {action : Action} {answered : List (Job × FetchResult)}
    (h : w.Step action next) (hw : ∀ number, w.Hears number answered[number]?)
    (hnumber : ∀ held ∈ action.answers w, held.1.number = answered.length) (number : Nat) :
    next.Hears number (answered ++ action.answers w)[number]? := by
  have hkept (hmem : number ∈ w.forgotten) : number ∈ next.forgotten := by
    rw [h.callers.2]
    exact List.mem_append_right _ hmem
  have hquiet (hanswers : action.answers w = []) (hsent : (next.sent number).Perm (w.sent number)) :
      next.Hears number (answered ++ action.answers w)[number]? := by
    rw [hanswers, List.append_nil]
    exact (hw number).of_perm hsent hkept
  cases h with
  | accepted h =>
      obtain ⟨-, -, -, rfl⟩ := eq_of_submit h
      exact hquiet rfl (.refl _)
  | refused _ => exact hquiet rfl (.refl _)
  | forgot h =>
      cases eq_of_forget? h
      exact hquiet rfl (.refl _)
  | closed => exact hquiet rfl (.refl _)
  | took h =>
      obtain ⟨_, _, -, -, rfl⟩ := eq_of_take? h
      exact hquiet rfl (.refl _)
  | ran h =>
      obtain ⟨_, -, ⟨_, _, -, rfl⟩ | ⟨-, rfl⟩⟩ := eq_of_run? h
      · exact hquiet rfl (.refl _)
      · exact hquiet rfl (.refl _)
  | replied h => exact hears_append_held h hw hnumber number
  | gaveUp h =>
      obtain ⟨_, -, rfl⟩ := eq_of_giveUp? h
      exact hquiet rfl (.refl _)
  | stopped h =>
      obtain ⟨-, -, -, rfl⟩ := eq_of_stop? h
      exact hquiet rfl (.refl _)
  | delivered h => exact hquiet rfl (sent_deliver? h number)

end Worker
end ImsiPseudonym
