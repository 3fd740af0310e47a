import ImsiPseudonym.Proofs.Engine.Series
import ImsiPseudonym.Proofs.Worker.Schedule

/-!
How far the thread of a worker has come.  It does the accepted jobs in turn, and whatever callers do
meanwhile, it is where the engine would be after as many fetches one after the other.
-/
namespace ImsiPseudonym

namespace Phase

/-- The job that has been taken and is not answered. -/
def inHand : Phase → List Job
  | .busy job | .holding job _ | .broken job => [job]
  | _ => []

/-- The job that is done and not answered, with its result. -/
def held : Phase → List (Job × FetchResult)
  | .holding job result => [(job, result)]
  | _ => []

def isBroken : Phase → Bool
  | .broken _ | .gone => true
  | _ => false

end Phase

namespace Worker

/-- The jobs that an action answers. -/
def Action.answers (w : Worker) : Action → List (Job × FetchResult)
  | .replied => w.phase.held
  | _ => []

/-- What the thread has come to, when these jobs have been accepted and the first of them answered. -/
inductive Standing (e : Engine) (partners : Partners) (jobs : List Job)
    (answered : List (Job × FetchResult)) (w : Worker) : Prop where
  | inTurn (hsound : w.phase.isBroken = false)
      (horder : jobs = answered.map Prod.fst ++ w.phase.inHand ++ w.queue)
      (hseries : e.fetchEach? partners ((answered ++ w.phase.held).map (·.1.carrier)) =
        some ⟨w.engine, w.partners, (answered ++ w.phase.held).map Prod.snd, w.turns⟩)
      (hstopped : w.phase = .stopped → w.queue = [])
  | brokenOff {job : Job} {behind : List Job} {s : Series}
      (hphase : w.phase = .broken job ∧ behind = w.queue ∨ w.phase = .gone)
      (horder : jobs = answered.map Prod.fst ++ job :: behind)
      (hseries : e.fetchEach? partners (answered.map (·.1.carrier)) = some s)
      (hresults : s.results = answered.map Prod.snd)
      (hbroken : (s.engine.fetch.play s.partners).result = none)
      (hturns : w.turns = s.turns ++ (s.engine.fetch.play s.partners).turns)

variable {e : Engine} {partners : Partners} {w next : Worker} {jobs : List Job}
  {answered : List (Job × FetchResult)}

theorem start_standing (e : Engine) (partners : Partners) :
    Standing e partners [] [] (start e partners) :=
  .inTurn rfl rfl rfl nofun

/-- In a sound phase the jobs stand in line: those answered, the one in hand, those in the queue. -/
theorem Standing.of_sound (h : Standing e partners jobs answered w)
    (hsound : w.phase.isBroken = false) :
    jobs = answered.map Prod.fst ++ w.phase.inHand ++ w.queue ∧
      e.fetchEach? partners ((answered ++ w.phase.held).map (·.1.carrier)) =
        some ⟨w.engine, w.partners, (answered ++ w.phase.held).map Prod.snd, w.turns⟩ ∧
      (w.phase = .stopped → w.queue = []) := by
  cases h with
  | inTurn _ horder hseries hstopped => exact ⟨horder, hseries, hstopped⟩
  | brokenOff hphase =>
      rcases hphase with ⟨hphase, -⟩ | hphase
      · rw [hphase] at hsound
        cases hsound
      · rw [hphase] at hsound
        cases hsound

/-- A job that is accepted goes to the end of the queue. -/
theorem Standing.submit (h : Standing e partners jobs answered w) {carrier : CarrierId}
    {channel : Channel} {number : Nat} (hnumber : w.accepted = jobs.length)
    (hsubmit : w.submit carrier channel = .ok (number, next)) :
    Standing e partners (jobs ++ [⟨jobs.length, carrier, channel⟩]) answered next := by
  obtain ⟨hopen, -, -, rfl⟩ := eq_of_submit hsubmit
  rw [hnumber]
  cases h with
  | inTurn hsound horder hseries hstopped =>
      refine .inTurn hsound ?_ hseries ?_
      · rw [horder]
        simp
      · intro hphase
        have hclosed : w.isClosed = true := by
          simp only at hphase
          simp [isClosed, hphase]
        rw [hopen] at hclosed
        cases hclosed
  | brokenOff hphase horder hseries hresults hbroken hturns =>
      rcases hphase with ⟨hphase, rfl⟩ | hphase
      · refine .brokenOff (Or.inl ⟨hphase, rfl⟩) ?_ hseries hresults hbroken hturns
        rw [horder]
        simp
      · simp [isClosed, hphase] at hopen

theorem Standing.take (h : Standing e partners jobs answered w) (htake : w.take? = some next) :
    Standing e partners jobs answered next := by
  obtain ⟨job, queue, hphase, hqueue, rfl⟩ := eq_of_take? htake
  obtain ⟨horder, hseries, -⟩ := h.of_sound (by rw [hphase]; rfl)
  refine .inTurn rfl ?_ ?_ nofun
  · rw [horder, hphase, hqueue]
    simp [Phase.inHand]
  · rw [hphase] at hseries
    exact hseries

/-- The fetch of the job in hand is the next one of the series. -/
theorem Standing.run (h : Standing e partners jobs answered w) (hrun : w.run? = some next) :
    Standing e partners jobs answered next := by
  obtain ⟨job, hphase, hcases⟩ := eq_of_run? hrun
  obtain ⟨horder, hseries, -⟩ := h.of_sound (by rw [hphase]; rfl)
  rw [hphase] at horder hseries
  simp only [Phase.held, List.append_nil] at hseries
  rcases hcases with ⟨result, engine, hresult, rfl⟩ | ⟨hresult, rfl⟩
  · refine .inTurn rfl horder ?_ nofun
    simp only [Phase.held, List.map_append, List.map_cons, List.map_nil]
    rw [Engine.fetchEach?_append_singleton, hseries]
    simp [Series.next?, hresult]
  · refine .brokenOff (Or.inl ⟨rfl, rfl⟩) ?_ hseries rfl hresult rfl
    rw [horder]
    simp [Phase.inHand]

theorem Standing.reply (h : Standing e partners jobs answered w) (hreply : w.reply? = some next) :
    Standing e partners jobs (answered ++ w.phase.held) next := by
  obtain ⟨job, result, hphase, hcases⟩ := eq_of_reply? hreply
  obtain ⟨horder, hseries, -⟩ := h.of_sound (by rw [hphase]; rfl)
  rw [hphase] at horder hseries ⊢
  have hidle : ∀ inbox deliveries, Standing e partners jobs
      (answered ++ Phase.held (.holding job result)) { w with phase := .idle, inbox, deliveries } := by
    intro inbox deliveries
    refine .inTurn rfl ?_ ?_ nofun
    · rw [horder]
      simp [Phase.inHand, Phase.held]
    · simpa [Phase.held] using hseries
  rcases hcases with ⟨-, -, rfl⟩ | ⟨-, rfl⟩ | ⟨-, rfl⟩
  · exact hidle w.inbox w.deliveries
  · exact hidle _ w.deliveries
  · exact hidle w.inbox _

theorem Standing.giveUp (h : Standing e partners jobs answered w)
    (hgiveUp : w.giveUp? = some next) : Standing e partners jobs answered next := by
  obtain ⟨job, hphase, rfl⟩ := eq_of_giveUp? hgiveUp
  cases h with
  | inTurn hsound =>
      rw [hphase] at hsound
      cases hsound
  | brokenOff _ horder hseries hresults hbroken hturns =>
      exact .brokenOff (Or.inr rfl) horder hseries hresults hbroken hturns

theorem Standing.stop (h : Standing e partners jobs answered w) (hstop : w.stop? = some next) :
    Standing e partners jobs answered next := by
  obtain ⟨hphase, hqueue, -, rfl⟩ := eq_of_stop? hstop
  obtain ⟨horder, hseries, -⟩ := h.of_sound (by rw [hphase]; rfl)
  rw [hphase] at horder hseries
  exact .inTurn rfl horder hseries fun _ => hqueue

/-- What callers and runtimes do otherwise does not touch the thread. -/
theorem Standing.of_eq (h : Standing e partners jobs answered w) (hphase : next.phase = w.phase)
    (hqueue : next.queue = w.queue) (hengine : next.engine = w.engine)
    (hpartners : next.partners = w.partners) (hturns : next.turns = w.turns) :
    Standing e partners jobs answered next := by
  cases h with
  | inTurn hsound horder hseries hstopped =>
      refine .inTurn ?_ ?_ ?_ ?_
      · rwa [hphase]
      · rwa [hphase, hqueue]
      · rwa [hphase, hengine, hpartners, hturns]
      · rwa [hphase, hqueue]
  | brokenOff hcases horder hseries hresults hbroken hsaid =>
      refine .brokenOff ?_ horder hseries hresults hbroken ?_
      · rwa [hphase, hqueue]
      · rwa [hturns]

theorem Step.standing {past : List Action} {action : Action} (h : w.Step action next)
    (hnumber : w.accepted = (Worker.jobs past).length)
    (hw : Standing e partners (Worker.jobs past) answered w) :
    Standing e partners (Worker.jobs (past ++ [action])) (answered ++ action.answers w) next := by
  have hquiet (hjobs : action.submission? = none) (hanswers : action.answers w = [])
      (hnext : Standing e partners (Worker.jobs past) answered next) :
      Standing e partners (Worker.jobs (past ++ [action])) (answered ++ action.answers w) next := by
    rwa [jobs_append_of_submission?_eq_none hjobs, hanswers, List.append_nil]
  cases h with
  | accepted h =>
      have hsubmitted := hw.submit hnumber h
      rw [jobs_append_accepted]
      simpa [Action.answers] using hsubmitted
  | refused _ => exact hquiet rfl rfl hw
  | forgot h =>
      cases eq_of_forget? h
      exact hquiet rfl rfl (hw.of_eq rfl rfl rfl rfl rfl)
  | closed => exact hquiet rfl rfl (hw.of_eq rfl rfl rfl rfl rfl)
  | took h => exact hquiet rfl rfl (hw.take h)
  | ran h => exact hquiet rfl rfl (hw.run h)
  | replied h =>
      rw [jobs_append_of_submission?_eq_none rfl]
      exact hw.reply h
  | gaveUp h => exact hquiet rfl rfl (hw.giveUp h)
  | stopped h => exact hquiet rfl rfl (hw.stop h)
  | delivered h =>
      obtain ⟨_, _, -, rfl⟩ := eq_of_deliver? h
      exact hquiet rfl rfl (hw.of_eq rfl rfl rfl rfl rfl)

end Worker
end ImsiPseudonym
