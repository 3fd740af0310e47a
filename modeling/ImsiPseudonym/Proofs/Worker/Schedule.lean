import ImsiPseudonym.Worker

/-!
Schedules of a worker.  Callers, the worker's thread and the runtimes of the callbacks act in any
order, one at a time; nothing else happens.  Main statements: `Step.left_lt`, by which the thread and
the runtimes come to an end if callers leave them alone, and `ended_or_step`, by which a worker that
has been shut down gets stuck nowhere before that.
-/
namespace ImsiPseudonym.Worker

theorem eq_of_submit {w next : Worker} {carrier : CarrierId} {channel : Channel} {number : Nat}
    (h : w.submit carrier channel = .ok (number, next)) :
    w.isClosed = false ∧ w.accepting = true ∧ number = w.accepted ∧
      next = { w with
        queue := w.queue ++ [⟨w.accepted, carrier, channel⟩]
        accepted := w.accepted + 1 } := by
  unfold submit at h
  split at h
  · cases h
  · rename_i hopen
    cases h
    have hboth : w.isClosed = false ∧ w.accepting = true := by simpa using hopen
    exact ⟨hboth.1, hboth.2, rfl, rfl⟩

theorem eq_of_forget? {w next : Worker} {number : Nat} (h : w.forget? number = some next) :
    next = { w with forgotten := number :: w.forgotten } := by
  unfold forget? at h
  split at h
  · exact (Option.some.inj h).symm
  · cases h

theorem eq_of_take? {w next : Worker} (h : w.take? = some next) :
    ∃ job queue, w.phase = .idle ∧ w.queue = job :: queue ∧
      next = { w with queue, phase := .busy job } := by
  unfold take? at h
  split at h
  · rename_i job queue hphase hqueue
    exact ⟨job, queue, hphase, hqueue, (Option.some.inj h).symm⟩
  · cases h

/-- A job is done or breaks the worker down. -/
theorem eq_of_run? {w next : Worker} (h : w.run? = some next) :
    ∃ job, w.phase = .busy job ∧
      ((∃ result engine, (w.engine.fetch.play w.partners).result = some (result, engine) ∧
        next = { w with
          engine
          partners := (w.engine.fetch.play w.partners).partners
          turns := w.turns ++ (w.engine.fetch.play w.partners).turns
          phase := .holding job result }) ∨
      (w.engine.fetch.play w.partners).result = none ∧
        next = { w with
          partners := (w.engine.fetch.play w.partners).partners
          turns := w.turns ++ (w.engine.fetch.play w.partners).turns
          phase := .broken job }) := by
  unfold run? at h
  split at h
  · rename_i job hphase
    refine ⟨job, hphase, ?_⟩
    dsimp only at h
    split at h
    · rename_i result engine hresult
      exact Or.inl ⟨result, engine, hresult, (Option.some.inj h).symm⟩
    · rename_i hresult
      exact Or.inr ⟨hresult, (Option.some.inj h).symm⟩
  · cases h

/-- An answer goes into the future, or is lost with it, or becomes due for delivery. -/
theorem eq_of_reply? {w next : Worker} (h : w.reply? = some next) :
    ∃ job result, w.phase = .holding job result ∧
      ((job.channel = .future ∧ job.number ∈ w.forgotten ∧ next = { w with phase := .idle }) ∨
      (job.channel = .future ∧
        next = { w with phase := .idle, inbox := w.inbox ++ [(job.number, result)] }) ∨
      (job.channel = .callback ∧
        next = { w with phase := .idle, deliveries := w.deliveries ++ [(job, result)] })) := by
  unfold reply? at h
  split at h
  · rename_i job result hphase
    refine ⟨job, result, hphase, ?_⟩
    dsimp only at h
    split at h
    · rename_i hchannel
      split at h
      · rename_i hforgotten
        exact Or.inl ⟨hchannel, hforgotten, (Option.some.inj h).symm⟩
      · exact Or.inr (Or.inl ⟨hchannel, (Option.some.inj h).symm⟩)
    · rename_i hchannel
      exact Or.inr (Or.inr ⟨hchannel, (Option.some.inj h).symm⟩)
  · cases h

theorem eq_of_giveUp? {w next : Worker} (h : w.giveUp? = some next) :
    ∃ job, w.phase = .broken job ∧ next = { w with queue := [], phase := .gone } := by
  unfold giveUp? at h
  split at h
  · rename_i job hphase
    exact ⟨job, hphase, (Option.some.inj h).symm⟩
  · cases h

theorem eq_of_stop? {w next : Worker} (h : w.stop? = some next) :
    w.phase = .idle ∧ w.queue = [] ∧ w.accepting = false ∧ next = { w with phase := .stopped } := by
  unfold stop? at h
  split at h
  · rename_i hphase hqueue
    split at h
    · cases h
    · rename_i hclosed
      exact ⟨hphase, hqueue, by simpa using hclosed, (Option.some.inj h).symm⟩
  · cases h

theorem eq_of_deliver? {w next : Worker} {place : Nat} (h : w.deliver? place = some next) :
    ∃ job result, w.deliveries[place]? = some (job, result) ∧
      next = { w with
        deliveries := w.deliveries.eraseIdx place
        calls := w.calls ++ [(job.number, .ofResult job.carrier result)] } := by
  unfold deliver? at h
  split at h
  · rename_i job result hplace
    exact ⟨job, result, hplace, (Option.some.inj h).symm⟩
  · cases h

/-- What can happen to a worker. -/
inductive Action where
  -- Callers:
  | accepted (carrier : CarrierId) (channel : Channel)
  | refused (carrier : CarrierId) (channel : Channel)
  | forgot (number : Nat)
  | closed
  -- The worker's thread:
  | took
  | ran
  | replied
  | gaveUp
  | stopped
  -- A runtime:
  | delivered (place : Nat)

namespace Action

/-- It is done by the worker's thread or by a runtime, and not by a caller. -/
def isOwn : Action → Bool
  | .took | .ran | .replied | .gaveUp | .stopped | .delivered _ => true
  | _ => false

/-- The carrier and the channel of an accepted job. -/
def submission? : Action → Option (CarrierId × Channel)
  | .accepted carrier channel => some (carrier, channel)
  | _ => none

/-- The number of the job whose future is dropped. -/
def forgotten? : Action → Option Nat
  | .forgot number => some number
  | _ => none

end Action

inductive Step : Worker → Action → Worker → Prop where
  | accepted {w next : Worker} {carrier : CarrierId} {channel : Channel} {number : Nat}
      (h : w.submit carrier channel = .ok (number, next)) :
      Step w (.accepted carrier channel) next
  | refused {w : Worker} {carrier : CarrierId} {channel : Channel} {e : WorkerError}
      (h : w.submit carrier channel = .error e) : Step w (.refused carrier channel) w
  | forgot {w next : Worker} {number : Nat} (h : w.forget? number = some next) :
      Step w (.forgot number) next
  | closed (w : Worker) : Step w .closed w.close
  | took {w next : Worker} (h : w.take? = some next) : Step w .took next
  | ran {w next : Worker} (h : w.run? = some next) : Step w .ran next
  | replied {w next : Worker} (h : w.reply? = some next) : Step w .replied next
  | gaveUp {w next : Worker} (h : w.giveUp? = some next) : Step w .gaveUp next
  | stopped {w next : Worker} (h : w.stop? = some next) : Step w .stopped next
  | delivered {w next : Worker} {place : Nat} (h : w.deliver? place = some next) :
      Step w (.delivered place) next

/-- All that has happened to a worker since it was as it was first. -/
inductive History (first : Worker) : List Action → Worker → Prop where
  | new : History first [] first
  | next {past : List Action} {w next : Worker} {action : Action} (h : History first past w)
      (hstep : w.Step action next) : History first (past ++ [action]) next

/-- The jobs that have been accepted, in order and with their numbers. -/
def jobs (past : List Action) : List Job :=
  (past.filterMap Action.submission?).mapIdx fun number (carrier, channel) =>
    ⟨number, carrier, channel⟩

@[simp] theorem jobs_nil : jobs [] = [] := rfl

theorem jobs_append_accepted (past : List Action) (carrier : CarrierId) (channel : Channel) :
    jobs (past ++ [.accepted carrier channel]) =
      jobs past ++ [⟨(jobs past).length, carrier, channel⟩] := by
  simp [jobs, Action.submission?, List.mapIdx_append]

theorem jobs_append_of_submission?_eq_none {action : Action} (h : action.submission? = none)
    (past : List Action) : jobs (past ++ [action]) = jobs past := by
  simp [jobs, h]

theorem number_eq_of_getElem?_jobs {past : List Action} {number : Nat} {job : Job}
    (h : (jobs past)[number]? = some job) : job.number = number := by
  rw [jobs, List.getElem?_mapIdx, Option.map_eq_some_iff] at h
  obtain ⟨_, -, rfl⟩ := h
  rfl

/-- The number of accepted jobs and the dropped futures change by what callers do, and by nothing
else. -/
theorem Step.callers {w next : Worker} {action : Action} (h : w.Step action next) :
    next.accepted = w.accepted + action.submission?.toList.length ∧
      next.forgotten = action.forgotten?.toList ++ w.forgotten := by
  cases h with
  | accepted h =>
      obtain ⟨-, -, -, rfl⟩ := eq_of_submit h
      exact ⟨rfl, rfl⟩
  | refused _ => exact ⟨rfl, rfl⟩
  | forgot h =>
      cases eq_of_forget? h
      exact ⟨rfl, rfl⟩
  | closed => exact ⟨rfl, rfl⟩
  | took h =>
      obtain ⟨_, _, -, -, rfl⟩ := eq_of_take? h
      exact ⟨rfl, rfl⟩
  | ran h =>
      obtain ⟨_, -, ⟨_, _, -, rfl⟩ | ⟨-, rfl⟩⟩ := eq_of_run? h
      · exact ⟨rfl, rfl⟩
      · exact ⟨rfl, rfl⟩
  | replied h =>
      obtain ⟨_, _, -, ⟨-, -, rfl⟩ | ⟨-, rfl⟩ | ⟨-, rfl⟩⟩ := eq_of_reply? h
      · exact ⟨rfl, rfl⟩
      · exact ⟨rfl, rfl⟩
      · exact ⟨rfl, rfl⟩
  | gaveUp h =>
      obtain ⟨_, -, rfl⟩ := eq_of_giveUp? h
      exact ⟨rfl, rfl⟩
  | stopped h =>
      obtain ⟨-, -, -, rfl⟩ := eq_of_stop? h
      exact ⟨rfl, rfl⟩
  | delivered h =>
      obtain ⟨_, _, -, rfl⟩ := eq_of_deliver? h
      exact ⟨rfl, rfl⟩

variable {e : Engine} {partners : Partners}

theorem History.accepted_eq {past : List Action} {w : Worker}
    (h : History (start e partners) past w) : w.accepted = (jobs past).length := by
  induction h with
  | new => rfl
  | next _ hstep ih =>
      rw [hstep.callers.1, ih]
      simp only [jobs, List.length_mapIdx, List.filterMap_append, List.length_append]
      rfl

theorem History.forgot_of_mem {past : List Action} {w : Worker}
    (h : History (start e partners) past w) {number : Nat} (hmem : number ∈ w.forgotten) :
    .forgot number ∈ past := by
  induction h with
  | new => cases hmem
  | @next past w next action _ hstep ih =>
      rw [hstep.callers.2] at hmem
      rcases List.mem_append.mp hmem with hlast | hbefore
      · cases action with
        | forgot other =>
            cases List.mem_singleton.mp hlast
            exact List.mem_append_right _ (List.mem_singleton_self _)
        | _ => cases hlast
      · exact List.mem_append_left _ (ih hbefore)

/-- Each step of the thread or of a runtime leaves less to do. -/
theorem Step.left_lt {w next : Worker} {action : Action} (h : w.Step action next)
    (hown : action.isOwn = true) : next.left < w.left := by
  cases h with
  | accepted _ => cases hown
  | refused _ => cases hown
  | forgot _ => cases hown
  | closed => cases hown
  | took h =>
      obtain ⟨job, queue, hphase, hqueue, rfl⟩ := eq_of_take? h
      simp only [left, hphase, hqueue, Phase.left, List.length_cons]
      omega
  | ran h =>
      obtain ⟨job, hphase, ⟨result, engine, -, rfl⟩ | ⟨-, rfl⟩⟩ := eq_of_run? h
      · simp only [left, hphase, Phase.left]
        omega
      · simp only [left, hphase, Phase.left]
        omega
  | replied h =>
      obtain ⟨job, result, hphase, ⟨-, -, rfl⟩ | ⟨-, rfl⟩ | ⟨-, rfl⟩⟩ := eq_of_reply? h
      · simp only [left, hphase, Phase.left]
        omega
      · simp only [left, hphase, Phase.left]
        omega
      · simp only [left, hphase, Phase.left, List.length_append, List.length_singleton]
        omega
  | gaveUp h =>
      obtain ⟨job, hphase, rfl⟩ := eq_of_giveUp? h
      simp only [left, hphase, Phase.left, List.length_nil]
      omega
  | stopped h =>
      obtain ⟨hphase, hqueue, -, rfl⟩ := eq_of_stop? h
      simp only [left, hphase, hqueue, Phase.left]
      omega
  | delivered h =>
      obtain ⟨job, result, hplace, rfl⟩ := eq_of_deliver? h
      have hlt : _ < w.deliveries.length := (List.getElem?_eq_some_iff.mp hplace).1
      simp only [left, List.length_eraseIdx, hlt, ↓reduceIte]
      omega

/-- So many steps of the thread and the runtimes there are, and no more. -/
theorem History.length_add_left_le {first w : Worker} {own : List Action}
    (h : History first own w) (hown : ∀ action ∈ own, action.isOwn = true) :
    own.length + w.left ≤ first.left := by
  induction h with
  | new => simp
  | @next past w next action _ hstep ih =>
      have hbefore := ih fun action hmem => hown action (List.mem_append_left _ hmem)
      have hlast := hstep.left_lt (hown action (by simp))
      rw [List.length_append, List.length_singleton]
      omega

/-- A worker has something to do unless it waits for jobs, or has come to its end and all answers are
delivered. -/
theorem waiting_or_ended_or_step (w : Worker) :
    (w.phase = .idle ∧ w.queue = []) ∨ (w.shutdown? ≠ none ∧ w.deliveries = []) ∨
      ∃ action next, action.isOwn = true ∧ w.Step action next := by
  cases hphase : w.phase with
  | idle =>
      cases hqueue : w.queue with
      | nil => exact Or.inl ⟨rfl, rfl⟩
      | cons job queue =>
          have htake : w.take? = some { w with queue, phase := .busy job } := by
            simp [take?, hphase, hqueue]
          exact Or.inr (Or.inr ⟨.took, _, rfl, .took htake⟩)
  | busy job =>
      have hrun : w.run? ≠ none := by
        simp only [run?, hphase]
        split <;> simp
      obtain ⟨next, hnext⟩ := Option.ne_none_iff_exists'.mp hrun
      exact Or.inr (Or.inr ⟨.ran, next, rfl, .ran hnext⟩)
  | holding job result =>
      have hreply : w.reply? ≠ none := by
        simp only [reply?, hphase]
        split
        · split <;> simp
        · simp
      obtain ⟨next, hnext⟩ := Option.ne_none_iff_exists'.mp hreply
      exact Or.inr (Or.inr ⟨.replied, next, rfl, .replied hnext⟩)
  | broken job =>
      have hgiveUp : w.giveUp? = some { w with queue := [], phase := .gone } := by
        simp [giveUp?, hphase]
      exact Or.inr (Or.inr ⟨.gaveUp, _, rfl, .gaveUp hgiveUp⟩)
  | gone | stopped =>
      cases hdeliveries : w.deliveries with
      | nil => exact Or.inr (Or.inl ⟨by simp [shutdown?, hphase], rfl⟩)
      | cons delivery rest =>
          have hdeliver : w.deliver? 0 ≠ none := by simp [deliver?, hdeliveries]
          obtain ⟨next, hnext⟩ := Option.ne_none_iff_exists'.mp hdeliver
          exact Or.inr (Or.inr ⟨.delivered 0, next, rfl, .delivered hnext⟩)

/-- Once it is shut down, a worker has something to do until it has come to its end and all answers
are delivered. -/
theorem ended_or_step {w : Worker} (hclosed : w.accepting = false) :
    (w.shutdown? ≠ none ∧ w.deliveries = []) ∨
      ∃ action next, action.isOwn = true ∧ w.Step action next := by
  rcases w.waiting_or_ended_or_step with ⟨hphase, hqueue⟩ | hrest
  · have hstop : w.stop? = some { w with phase := .stopped } := by
      simp [stop?, hphase, hqueue, hclosed]
    exact Or.inr ⟨.stopped, _, rfl, .stopped hstop⟩
  · exact hrest

end ImsiPseudonym.Worker
