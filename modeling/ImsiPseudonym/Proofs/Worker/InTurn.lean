import ImsiPseudonym.Proofs.Engine.Life
import ImsiPseudonym.Proofs.Worker.Delivery

/-!
Jobs are done in turn.  In whatever order callers, the thread and the runtimes act, each accepted job
hears once of the fetch that would have been its own, had the same carriers been fetched one after the
other.
-/
namespace ImsiPseudonym

/-- What is to be heard of a job whose fetch has come to a result. -/
inductive Job.Reports (job : Job) : FetchResult → Outcome → Prop where
  | yielded {granted : Option Grant} (h : job.channel = .future) :
      Reports job (.ok granted) (.yielded (.ok granted))
  | yieldedFailure {e : EntitlementError} (h : job.channel = .future) :
      Reports job (.error e) (.yielded (.error (.entitlement e)))
  | success {grant : Grant} (h : job.channel = .callback) :
      Reports job (.ok (some grant)) (.called (.onSuccess job.carrier grant))
  | nothingUsable (h : job.channel = .callback) :
      Reports job (.ok none)
        (.called (.onFailure job.carrier .nonTransient "no valid pseudonym received"))
  | failure {e : EntitlementError} (h : job.channel = .callback) :
      Reports job (.error e) (.called (.onFailure job.carrier e.reason e.message))

theorem Job.reports_outcome (job : Job) (result : FetchResult) :
    job.Reports result (job.outcome result) := by
  cases hchannel : job.channel with
  | future =>
      rw [outcome, hchannel]
      cases result with
      | error e => exact .yieldedFailure hchannel
      | ok granted => exact .yielded hchannel
  | callback =>
      rw [outcome, hchannel]
      cases result with
      | error e => exact .failure hchannel
      | ok granted =>
          cases granted with
          | none => exact .nothingUsable hchannel
          | some grant => exact .success hchannel

namespace Worker

/-- What the caller of a job has heard of it: what its future yields and how its callback was called. -/
def heard (w : Worker) (number : Nat) : List Outcome :=
  (w.await? number).toList.map .yielded ++ w.callsOf number

variable {e : Engine} {partners : Partners} {w next : Worker} {past : List Action}

/-- Unless the worker broke down, whatever was sent for a job has been heard or is due. -/
theorem heard_append_due (hsound : w.phase.isBroken = false) {number : Nat}
    (hsent : (w.sent number).length ≤ 1) : w.heard number ++ w.due number = w.sent number := by
  have hlost : w.hasLost number = false := by
    cases hphase : w.phase <;> simp_all [hasLost, Phase.isBroken]
  have hletters : (w.letters number).length ≤ 1 := by
    simp only [sent, List.length_append] at hsent
    omega
  rw [heard, sent]
  congr 2
  rw [letters, List.length_map] at hletters
  rw [await?, ← List.head?_filter, letters, hlost]
  rcases hinbox : w.inbox.filter fun letter => letter.1 = number with _ | ⟨letter, _ | ⟨next, rest⟩⟩
  · rw [hinbox]
    rfl
  · rw [hinbox]
    rfl
  · simp [hinbox] at hletters

/-- The job in hand is the one behind those answered. -/
theorem Standing.held_number {answered : List (Job × FetchResult)}
    (h : Standing e partners (jobs past) answered w) :
    ∀ held ∈ w.phase.held, held.1.number = answered.length := by
  intro held hmem
  cases hphase : w.phase with
  | holding job result =>
      obtain ⟨horder, -, -⟩ := h.of_sound (by rw [hphase]; rfl)
      rw [hphase] at horder hmem
      rw [List.mem_singleton.mp hmem]
      have hjob : (jobs past)[answered.length]? = some job := by
        rw [horder]
        simp [Phase.inHand]
      exact number_eq_of_getElem?_jobs hjob
  | idle | busy _ | broken _ | gone | stopped => simp [hphase, Phase.held] at hmem

theorem History.standing (h : History (start e partners) past w) :
    ∃ answered, Standing e partners (jobs past) answered w ∧
      ∀ number, w.Hears number answered[number]? := by
  induction h with
  | new => exact ⟨[], start_standing e partners, fun _ => .nothing rfl⟩
  | @next past w next action hpast hstep ih =>
      obtain ⟨answered, hstanding, hhears⟩ := ih
      refine ⟨answered ++ action.answers w, hstep.standing hpast.accepted_eq hstanding, ?_⟩
      apply hstep.hears hhears
      cases action with
      | replied => exact hstanding.held_number
      | _ => exact nofun

variable {answered : List (Job × FetchResult)}

/-- The jobs that are done are the first ones. -/
theorem Standing.take_jobs (h : Standing e partners (jobs past) answered w)
    (hsound : w.phase.isBroken = false) :
    (jobs past).take (answered ++ w.phase.held).length =
      (answered ++ w.phase.held).map Prod.fst := by
  obtain ⟨horder, -, -⟩ := h.of_sound hsound
  have hheld : w.phase.inHand.take w.phase.held.length = w.phase.held.map Prod.fst := by
    cases w.phase <;> rfl
  rw [horder, List.append_assoc, List.length_append, List.take_append, List.map_append,
    List.length_map, Nat.add_sub_cancel_left, List.take_of_length_le (by simp)]
  have hshort : w.phase.held.length ≤ w.phase.inHand.length := by
    cases w.phase <;> simp [Phase.held, Phase.inHand]
  rw [List.take_append_of_le_length hshort, hheld]

theorem Standing.eq_of_getElem?_answered (h : Standing e partners (jobs past) answered w)
    (hsound : w.phase.isBroken = false) {number : Nat} {job done : Job} {result : FetchResult}
    (hjob : (jobs past)[number]? = some job) (hdone : answered[number]? = some (done, result)) :
    done = job := by
  obtain ⟨horder, -, -⟩ := h.of_sound hsound
  have hlt : number < (answered.map Prod.fst).length := by
    rw [List.length_map]
    exact (List.getElem?_eq_some_iff.mp hdone).1
  rw [horder, List.append_assoc, List.getElem?_append_left hlt, List.getElem?_map, hdone] at hjob
  exact Option.some.inj hjob

/-- Nothing has come of a job yet, or what comes of its fetch. -/
theorem Standing.reports (h : Standing e partners (jobs past) answered w)
    (hsound : w.phase.isBroken = false) {number : Nat} {job : Job}
    (hjob : (jobs past)[number]? = some job) (hhears : w.Hears number answered[number]?) :
    w.heard number ++ w.due number = [] ∨
      ∃ result outcome, ((answered ++ w.phase.held).map Prod.snd)[number]? = some result ∧
        job.Reports result outcome ∧ w.heard number ++ w.due number = [outcome] := by
  rw [heard_append_due hsound hhears.length_sent_le]
  cases hanswer : answered[number]? with
  | none =>
      rw [hanswer] at hhears
      exact Or.inl hhears.sent_eq_nil
  | some answer =>
      obtain ⟨done, result⟩ := answer
      obtain rfl := h.eq_of_getElem?_answered hsound hjob hanswer
      rw [hanswer] at hhears
      have hlt : number < answered.length := (List.getElem?_eq_some_iff.mp hanswer).1
      cases hhears with
      | once hsent =>
          refine Or.inr ⟨result, done.outcome result, ?_, done.reports_outcome result, hsent⟩
          rw [List.getElem?_map, List.getElem?_append_left hlt, hanswer]
          rfl
      | missed _ _ hsent => exact Or.inl hsent

/-- Once the thread has stopped, all jobs are answered. -/
theorem Standing.jobs_eq_of_stopped (h : Standing e partners (jobs past) answered w)
    (hphase : w.phase = .stopped) : jobs past = answered.map Prod.fst := by
  obtain ⟨horder, -, hqueue⟩ := h.of_sound (by rw [hphase]; rfl)
  rw [horder, hqueue hphase, hphase]
  simp [Phase.inHand]

theorem stopped_of_shutdown? (hsound : w.phase.isBroken = false) (hended : w.shutdown? ≠ none) :
    w.phase = .stopped := by
  cases hphase : w.phase <;> simp_all [shutdown?, Phase.isBroken]

/-- Only the holder of a future that was dropped hears nothing of an answered job. -/
theorem Standing.forgotten_of_unheard (h : Standing e partners (jobs past) answered w)
    (hphase : w.phase = .stopped) {number : Nat} {job : Job}
    (hjob : (jobs past)[number]? = some job) (hhears : w.Hears number answered[number]?)
    (hsent : w.sent number = []) : job.channel = .future ∧ number ∈ w.forgotten := by
  rw [h.jobs_eq_of_stopped hphase, List.getElem?_map, Option.map_eq_some_iff] at hjob
  obtain ⟨⟨done, result⟩, hanswer, rfl⟩ := hjob
  rw [hanswer] at hhears
  cases hhears with
  | once honce =>
      rw [hsent] at honce
      cases honce
  | missed hchannel hforgotten _ => exact ⟨hchannel, hforgotten⟩

/-- At any point of any schedule without a breakdown the first jobs are done, as many fetches one after
the other would have done them: with the same requests, and with the same engine by then.  What is
heard of a job, at most once, is what its own fetch has come to.  Once a shutdown reports, all jobs
are done and answered, save into futures that were dropped.  After it is called there is always
something left to do until then, and never more than a given number of steps. -/
theorem jobs_done_in_turn (h : History (start e partners) past w)
    (hsound : w.phase.isBroken = false) :
    ∃ s : Series,
      e.fetchEach? partners (((jobs past).take s.results.length).map Job.carrier) = some s ∧
      w.engine = s.engine ∧ w.partners = s.partners ∧ w.turns = s.turns ∧
      (∀ number job, (jobs past)[number]? = some job →
        w.heard number ++ w.due number = [] ∨
        ∃ result outcome, s.results[number]? = some result ∧ job.Reports result outcome ∧
          w.heard number ++ w.due number = [outcome]) ∧
      (w.shutdown? ≠ none →
        w.shutdown? = some (.ok ()) ∧ s.results.length = (jobs past).length ∧
        ∀ number job, (jobs past)[number]? = some job → w.heard number ++ w.due number = [] →
          job.channel = .future ∧ .forgot number ∈ past) ∧
      (w.accepting = false →
        w.shutdown? = some (.ok ()) ∧ w.deliveries = [] ∨
        ∃ action next, action.isOwn = true ∧ w.Step action next) ∧
      ∀ own next, History w own next → (∀ action ∈ own, action.isOwn = true) →
        own.length ≤ w.left := by
  obtain ⟨answered, hstanding, hhears⟩ := h.standing
  obtain ⟨-, hseries, -⟩ := hstanding.of_sound hsound
  have hended (hended : w.shutdown? ≠ none) : w.shutdown? = some (.ok ()) := by
    rw [shutdown?, stopped_of_shutdown? hsound hended]
  refine ⟨⟨w.engine, w.partners, (answered ++ w.phase.held).map Prod.snd, w.turns⟩,
    ?_, rfl, rfl, rfl, ?_, ?_, ?_, ?_⟩
  · rw [List.length_map, hstanding.take_jobs hsound, List.map_map]
    exact hseries
  · intro number job hjob
    exact hstanding.reports hsound hjob (hhears number)
  · intro hreport
    have hphase : w.phase = .stopped := stopped_of_shutdown? hsound hreport
    refine ⟨hended hreport, ?_, ?_⟩
    · rw [hstanding.jobs_eq_of_stopped hphase, hphase]
      simp [Phase.held]
    · intro number job hjob hnothing
      rw [heard_append_due hsound (hhears number).length_sent_le] at hnothing
      obtain ⟨hchannel, hforgotten⟩ :=
        hstanding.forgotten_of_unheard hphase hjob (hhears number) hnothing
      exact ⟨hchannel, h.forgot_of_mem hforgotten⟩
  · intro hclosed
    rcases ended_or_step hclosed with ⟨hreport, hdelivered⟩ | hstep
    · exact Or.inl ⟨hended hreport, hdelivered⟩
    · exact Or.inr hstep
  · intro own next hown hall
    have hle := hown.length_add_left_le hall
    omega

namespace Rehearsed

def carrier : CarrierId := ⟨1⟩

def opened : Worker := start Engine.Rehearsed.first Engine.Rehearsed.partners

/-- A future and a callback, with a shutdown while the first job is done. -/
def schedule : List Action :=
  [.accepted carrier .future, .took, .accepted carrier .callback, .ran, .closed, .replied, .took,
    .ran, .replied, .stopped, .delivered 0]

set_option maxRecDepth 20000 in
theorem history : ∃ w, History opened schedule w ∧ w.phase = .stopped ∧ w.deliveries = [] := by
  have hstart : History opened [] opened := .new
  have hfuture := hstart.next (.accepted rfl : opened.Step (.accepted carrier .future) _)
  have htook := hfuture.next (.took rfl)
  have hcallback := htook.next (.accepted rfl : Step _ (.accepted carrier .callback) _)
  have hclosed := (hcallback.next (.ran rfl)).next (.closed _)
  have hsecond := ((hclosed.next (.replied rfl)).next (.took rfl)).next (.ran rfl)
  have hstopped := (hsecond.next (.replied rfl)).next (.stopped rfl)
  have hdelivered := hstopped.next (.delivered rfl : Step _ (.delivered 0) _)
  exact ⟨_, hdelivered, rfl, rfl⟩

end Rehearsed

theorem rehearsed_jobs_done_in_turn :
    ∃ w, History Rehearsed.opened Rehearsed.schedule w ∧
      w.phase.isBroken = false ∧ w.shutdown? = some (.ok ()) ∧
      ∃ s, Engine.Rehearsed.first.fetchEach? Engine.Rehearsed.partners
          [Rehearsed.carrier, Rehearsed.carrier] = some s ∧ s.results.length = 2 ∧
        w.engine = s.engine ∧ w.turns = s.turns ∧
        ∃ result outcome, s.results[1]? = some result ∧
          Job.Reports ⟨1, Rehearsed.carrier, .callback⟩ result outcome ∧ w.heard 1 = [outcome] := by
  obtain ⟨w, hpast, hphase, hdelivered⟩ := Rehearsed.history
  have hsound : w.phase.isBroken = false := by rw [hphase]; rfl
  have hended : w.shutdown? = some (.ok ()) := by rw [shutdown?, hphase]
  obtain ⟨s, hseries, hengine, -, hturns, hreports, hshutdown, -, -⟩ :=
    jobs_done_in_turn hpast hsound
  obtain ⟨-, hlength, hheard⟩ := hshutdown (by rw [hended]; exact Option.some_ne_none _)
  have hdue : w.due 1 = [] := by rw [due, hdelivered]; rfl
  have hjob : (jobs Rehearsed.schedule)[1]? = some ⟨1, Rehearsed.carrier, .callback⟩ := rfl
  refine ⟨w, hpast, hsound, hended, s, ?_, hlength, hengine, hturns, ?_⟩
  · rw [hlength] at hseries
    exact hseries
  · rcases hreports 1 _ hjob with hnothing | ⟨result, outcome, hresult, hreport, hsent⟩
    · cases (hheard 1 _ hjob hnothing).1
    · rw [hdue, List.append_nil] at hsent
      exact ⟨result, outcome, hresult, hreport, hsent⟩

end Worker
end ImsiPseudonym
