import ImsiPseudonym.Proofs.Worker.InTurn

/-!
Breakdowns.  If the SIM breaks down over a job, the jobs before it keep the outcomes that they have
got, that job and all behind it are lost, and nothing more is said to anyone.
-/
namespace ImsiPseudonym.Worker

variable {e : Engine} {partners : Partners} {w next : Worker} {past : List Action}
  {answered : List (Job × FetchResult)} {number : Nat} {before : Series}

/-- The fetches before the one of this number come to `before`, and in that fetch the SIM breaks
down. -/
structure BreaksDown (e : Engine) (partners : Partners) (jobs : List Job) (number : Nat)
    (before : Series) : Prop where
  number_lt : number < jobs.length
  before_eq : e.fetchEach? partners ((jobs.map Job.carrier).take number) = some before
  panics : ∃ challenge,
    .asked challenge .breaksDown ∈ (before.engine.fetch.play before.partners).turns

namespace BreaksDown

variable {js : List Job}

theorem result_eq_none (h : BreaksDown e partners js number before) :
    (before.engine.fetch.play before.partners).result = none :=
  (Dialogue.play_progress _ _).eq_none_iff.mpr h.panics

theorem le_of_fetchEach? (h : BreaksDown e partners js number before) {count : Nat} {s : Series}
    (hs : e.fetchEach? partners ((js.map Job.carrier).take count) = some s) : count ≤ number := by
  by_contra hlt
  have hnumber : number < (js.map Job.carrier).length := by
    rw [List.length_map]
    exact h.number_lt
  obtain ⟨t, ht, -, -⟩ := Engine.exists_of_fetchEach?_take (Nat.lt_of_not_le hlt) hs
  rw [List.take_succ_eq_append_getElem hnumber, Engine.fetchEach?_append_singleton, h.before_eq,
    Option.bind_some, Series.next?, h.result_eq_none] at ht
  cases ht

theorem unique {other : Nat} {before' : Series} (h : BreaksDown e partners js number before)
    (h' : BreaksDown e partners js other before') : other = number ∧ before' = before := by
  have heq : other = number :=
    Nat.le_antisymm (h.le_of_fetchEach? h'.before_eq) (h'.le_of_fetchEach? h.before_eq)
  subst heq
  exact ⟨rfl, Option.some.inj (h'.before_eq.symm.trans h.before_eq)⟩

end BreaksDown

/-- The jobs that are answered are the first ones. -/
theorem take_jobs_of_brokenOff {js behind : List Job} {job : Job}
    (horder : js = answered.map Prod.fst ++ job :: behind) :
    js.take answered.length = answered.map Prod.fst := by
  rw [horder, List.take_append_of_le_length (by simp), List.take_of_length_le (by simp)]

theorem BreaksDown.of_brokenOff {js behind : List Job} {job : Job} {s : Series}
    (horder : js = answered.map Prod.fst ++ job :: behind)
    (hseries : e.fetchEach? partners (answered.map (·.1.carrier)) = some s)
    (hbroken : (s.engine.fetch.play s.partners).result = none) :
    BreaksDown e partners js answered.length s := by
  constructor
  · rw [horder]
    simp
  · rw [← List.map_take, take_jobs_of_brokenOff horder, List.map_map]
    exact hseries
  · exact (Dialogue.play_progress _ _).eq_none_iff.mp hbroken

theorem Standing.exists_breaksDown (h : Standing e partners (jobs past) answered w)
    (hbroken : w.phase.isBroken = true) :
    ∃ number before, BreaksDown e partners (jobs past) number before := by
  cases h with
  | inTurn hsound =>
      rw [hsound] at hbroken
      cases hbroken
  | brokenOff _ horder hseries _ hnone _ =>
      exact ⟨_, _, .of_brokenOff horder hseries hnone⟩

/-- As long as the worker is not broken, it has done some of the jobs before that one. -/
theorem Standing.before_breakdown (h : Standing e partners (jobs past) answered w)
    (hbreak : BreaksDown e partners (jobs past) number before)
    (hsound : w.phase.isBroken = false) :
    answered.length ≤ number ∧ answered.map Prod.snd <+: before.results ∧
      w.turns <+: before.turns := by
  obtain ⟨-, hseries, -⟩ := h.of_sound hsound
  have hdone : e.fetchEach? partners
      (((jobs past).map Job.carrier).take (answered ++ w.phase.held).length) =
      some ⟨w.engine, w.partners, (answered ++ w.phase.held).map Prod.snd, w.turns⟩ := by
    rw [← List.map_take, h.take_jobs hsound, List.map_map]
    exact hseries
  have hle := hbreak.le_of_fetchEach? hdone
  obtain ⟨s, hs, hresults, hturns⟩ := Engine.exists_of_fetchEach?_take hle hbreak.before_eq
  rw [hdone] at hs
  cases hs
  refine ⟨?_, ?_, hturns⟩
  · rw [List.length_append] at hle
    omega
  · rw [List.map_append] at hresults
    exact (List.prefix_append _ _).trans hresults

/-- A broken worker has answered all jobs before that one, and said nothing since. -/
theorem Standing.at_breakdown (h : Standing e partners (jobs past) answered w)
    (hbreak : BreaksDown e partners (jobs past) number before)
    (hbroken : w.phase.isBroken = true) :
    answered.length = number ∧ answered.map Prod.snd = before.results ∧
      w.turns = before.turns ++ (before.engine.fetch.play before.partners).turns ∧
      ((∃ job, w.phase = .broken job ∧ job.number = number) ∨ w.phase = .gone) := by
  cases h with
  | inTurn hsound =>
      rw [hsound] at hbroken
      cases hbroken
  | @brokenOff job behind s hphase horder hseries hresults hnone hturns =>
      obtain ⟨rfl, rfl⟩ := hbreak.unique (.of_brokenOff horder hseries hnone)
      refine ⟨rfl, hresults.symm, hturns, ?_⟩
      rcases hphase with ⟨hphase, -⟩ | hphase
      · have hjob : (jobs past)[answered.length]? = some job := by
          rw [horder]
          simp
        exact Or.inl ⟨job, hphase, number_eq_of_getElem?_jobs hjob⟩
      · exact Or.inr hphase

/-- A worker that is going to break down does not come to an orderly end. -/
theorem Standing.not_stopped (h : Standing e partners (jobs past) answered w)
    (hbreak : BreaksDown e partners (jobs past) number before) : w.phase ≠ .stopped := by
  intro hphase
  obtain ⟨hle, -, -⟩ := h.before_breakdown hbreak (by rw [hphase]; rfl)
  have hlt := hbreak.number_lt
  rw [h.jobs_eq_of_stopped hphase, List.length_map] at hlt
  omega

/-- As long as the worker is not broken, there is a job left for it to do. -/
theorem Standing.not_waiting (h : Standing e partners (jobs past) answered w)
    (hbreak : BreaksDown e partners (jobs past) number before) :
    ¬ (w.phase = .idle ∧ w.queue = []) := by
  intro ⟨hphase, hqueue⟩
  have hsound : w.phase.isBroken = false := by rw [hphase]; rfl
  obtain ⟨hle, -, -⟩ := h.before_breakdown hbreak hsound
  obtain ⟨horder, -, -⟩ := h.of_sound hsound
  have hlt := hbreak.number_lt
  rw [horder, hphase, hqueue] at hlt
  simp only [Phase.inHand, List.append_nil, List.length_map] at hlt
  omega

/-- A worker that has given up its queue stays like that, and says no more. -/
theorem Step.gone {action : Action} (h : w.Step action next) (hphase : w.phase = .gone) :
    next.phase = .gone := by
  cases h with
  | accepted h =>
      obtain ⟨-, -, -, rfl⟩ := eq_of_submit h
      exact hphase
  | refused _ => exact hphase
  | forgot h =>
      cases eq_of_forget? h
      exact hphase
  | closed => exact hphase
  | took h =>
      obtain ⟨_, _, hidle, -, -⟩ := eq_of_take? h
      rw [hidle] at hphase
      cases hphase
  | ran h =>
      obtain ⟨_, hbusy, -⟩ := eq_of_run? h
      rw [hbusy] at hphase
      cases hphase
  | replied h =>
      obtain ⟨_, _, hholding, -⟩ := eq_of_reply? h
      rw [hholding] at hphase
      cases hphase
  | gaveUp h =>
      obtain ⟨_, -, rfl⟩ := eq_of_giveUp? h
      rfl
  | stopped h =>
      obtain ⟨hidle, -⟩ := eq_of_stop? h
      rw [hidle] at hphase
      cases hphase
  | delivered h =>
      obtain ⟨_, _, -, rfl⟩ := eq_of_deliver? h
      exact hphase

theorem History.gone {more : List Action} (h : History w more next) (hphase : w.phase = .gone) :
    next.phase = .gone := by
  induction h with
  | new => exact hphase
  | next _ hstep ih => exact hstep.gone ih

theorem submit_of_gone (hphase : w.phase = .gone) (carrier : CarrierId) (channel : Channel) :
    w.submit carrier channel = .error .closed := by
  have hclosed : w.isClosed = true := by simp [isClosed, hphase]
  simp [submit, hclosed]

/-- What its caller hears of a job, or is yet to hear: what its future yields, if that is the
channel, and the calls of its callback. -/
def news (w : Worker) (job : Job) : List Outcome :=
  (match job.channel with
    | .future => (w.await? job.number).toList.map .yielded
    | .callback => []) ++ w.callsOf job.number ++ w.due job.number

/-- A future that is dropped by the worker yields that. -/
def droppedNews (w : Worker) (job : Job) : List Outcome :=
  match job.channel with
  | .future => if w.hasLost job.number then [.yielded (.error .dropped)] else []
  | .callback => []

/-- Of a job for which nothing was sent its caller hears at most that it was dropped. -/
theorem news_of_sent_eq_nil {job : Job} (h : w.sent job.number = []) :
    w.news job = w.droppedNews job := by
  simp only [sent, List.append_eq_nil_iff] at h
  obtain ⟨⟨hletters, hcalls⟩, hdue⟩ := h
  rw [letters, List.map_eq_nil_iff] at hletters
  have hletter : (w.inbox.find? fun letter => letter.1 = job.number) = none := by
    rw [← List.head?_filter, hletters, List.head?_nil]
  rw [news, droppedNews, hcalls, hdue]
  cases job.channel with
  | future =>
      simp only [await?, hletter]
      split <;> rfl
  | callback => rfl

theorem eq_yielded_of_mem_letters {outcome : Outcome} (h : outcome ∈ w.letters number) :
    ∃ result, outcome = .yielded result := by
  obtain ⟨letter, -, rfl⟩ := List.mem_map.mp h
  exact ⟨_, rfl⟩

theorem eq_called_of_mem {outcome : Outcome} (h : outcome ∈ w.callsOf number ++ w.due number) :
    ∃ call, outcome = .called call := by
  rcases List.mem_append.mp h with h | h
  · obtain ⟨call, -, rfl⟩ := List.mem_map.mp h
    exact ⟨_, rfl⟩
  · obtain ⟨delivery, -, rfl⟩ := List.mem_map.mp h
    exact ⟨_, rfl⟩

theorem await?_of_letters {result : Except WorkerError (Option Grant)}
    (h : w.letters number = [.yielded result]) : w.await? number = some result := by
  obtain ⟨letter, hletter, hresult⟩ := List.map_eq_singleton_iff.mp h
  rw [await?, ← List.head?_filter, hletter]
  exact congrArg some (Outcome.yielded.inj hresult)

theorem news_of_sent {job : Job} {result : FetchResult}
    (h : w.sent job.number = [job.outcome result]) : w.news job = [job.outcome result] := by
  rw [sent, List.append_assoc, List.append_eq_singleton_iff] at h
  rw [news, List.append_assoc]
  cases hchannel : job.channel with
  | future =>
      have houtcome : job.outcome result = .yielded (yielded result) := by
        rw [Job.outcome, hchannel]
      rw [houtcome] at h ⊢
      rcases h with ⟨-, hcalls⟩ | ⟨hletters, hcalls⟩
      · obtain ⟨call, hcall⟩ := eq_called_of_mem (hcalls ▸ List.mem_singleton_self _)
        cases hcall
      · simp [await?_of_letters hletters, hcalls]
  | callback =>
      have houtcome : job.outcome result = .called (.ofResult job.carrier result) := by
        rw [Job.outcome, hchannel]
      rw [houtcome] at h ⊢
      rcases h with ⟨-, hcalls⟩ | ⟨hletters, -⟩
      · exact hcalls
      · obtain ⟨_, hyielded⟩ := eq_yielded_of_mem_letters (hletters ▸ List.mem_singleton_self _)
        cases hyielded

/-- What is left of a worker that the job of this number breaks down, before and after it does
so. -/
structure Aftermath (past : List Action) (w : Worker) (number : Nat) (before : Series) : Prop where
  /-- All that is said belongs to the fetches up to the one that breaks down. -/
  said : w.turns <+: before.turns ++ (before.engine.fetch.play before.partners).turns
  said_all (hbroken : w.phase.isBroken = true) :
    w.turns = before.turns ++ (before.engine.fetch.play before.partners).turns
  /-- Of a job before that one its caller hears what its own fetch has come to. -/
  earlier {job : Job} (hjob : job ∈ (jobs past).take number) :
    (job.channel = .future ∧ .forgot job.number ∈ past) ∨
    (w.phase.isBroken = false ∧ w.news job = []) ∨
    ∃ result outcome, before.results[job.number]? = some result ∧
      job.Reports result outcome ∧ w.news job = [outcome]
  /-- Of that job and those behind it nobody hears anything, -/
  later {job : Job} (hjob : job ∈ (jobs past).drop number) :
    w.news job = [] ∨ (job.channel = .future ∧ w.news job = [.yielded (.error .dropped)])
  /-- but the holders of their futures, that they are dropped: at once -/
  broken {job : Job} (hjob : (jobs past)[number]? = some job) (hchannel : job.channel = .future)
    (hbroken : w.phase.isBroken = true) : w.news job = [.yielded (.error .dropped)]
  /-- or when the queue is given up. -/
  behind {job : Job} (hjob : job ∈ (jobs past).drop number) (hchannel : job.channel = .future)
    (hgone : w.phase = .gone) : w.news job = [.yielded (.error .dropped)]
  /-- From then on every job is refused. -/
  refused {more : List Action} {next : Worker} (hgone : w.phase = .gone)
    (hmore : History w more next) (carrier : CarrierId) (channel : Channel) :
    next.submit carrier channel = .error .closed
  /-- A shutdown reports nothing but the breakdown, -/
  shutdown (hended : w.shutdown? ≠ none) :
    w.shutdown? = some (.error .panicked) ∧ w.phase = .gone
  /-- and it does so in the end: until then there is something to do, -/
  going : (w.shutdown? = some (.error .panicked) ∧ w.deliveries = []) ∨
    ∃ action next, action.isOwn = true ∧ w.Step action next
  /-- but not for ever. -/
  bounded {own : List Action} {next : Worker} (hown : History w own next)
    (hall : ∀ action ∈ own, action.isOwn = true) : own.length ≤ w.left

theorem getElem?_of_mem_take {job : Job} (h : job ∈ (jobs past).take number) :
    (jobs past)[job.number]? = some job ∧ job.number < number := by
  obtain ⟨place, hplace, hjob⟩ := List.mem_take_iff_getElem.mp h
  have hget : (jobs past)[place]? = some job := by
    rw [List.getElem?_eq_getElem (by omega), hjob]
  obtain rfl := number_eq_of_getElem?_jobs hget
  exact ⟨hget, by omega⟩

theorem getElem?_of_mem_drop {job : Job} (h : job ∈ (jobs past).drop number) :
    (jobs past)[job.number]? = some job ∧ number ≤ job.number := by
  obtain ⟨place, hplace, hjob⟩ := List.mem_drop_iff_getElem.mp h
  have hget : (jobs past)[number + place]? = some job := by
    rw [List.getElem?_eq_getElem (by omega), hjob]
  have hnumber := number_eq_of_getElem?_jobs hget
  rw [hnumber]
  exact ⟨hget, by omega⟩

/-- In whatever phase, the jobs that are answered are the first ones. -/
theorem Standing.take_answered (h : Standing e partners (jobs past) answered w) :
    (jobs past).take answered.length = answered.map Prod.fst := by
  cases h with
  | inTurn _ horder _ _ =>
      rw [horder, List.append_assoc, List.take_append_of_le_length (by simp),
        List.take_of_length_le (by simp)]
  | brokenOff _ horder _ _ _ _ => exact take_jobs_of_brokenOff horder

theorem Standing.answered_prefix (h : Standing e partners (jobs past) answered w)
    (hbreak : BreaksDown e partners (jobs past) number before) :
    answered.length ≤ number ∧ answered.map Prod.snd <+: before.results := by
  cases hphase : w.phase.isBroken with
  | false =>
      obtain ⟨hle, hresults, -⟩ := h.before_breakdown hbreak hphase
      exact ⟨hle, hresults⟩
  | true =>
      obtain ⟨heq, hresults, -, -⟩ := h.at_breakdown hbreak hphase
      exact ⟨Nat.le_of_eq heq, hresults ▸ List.prefix_rfl⟩

theorem hasLost_eq_false (hsound : w.phase.isBroken = false) (number : Nat) :
    w.hasLost number = false := by
  cases hphase : w.phase <;> simp_all [hasLost, Phase.isBroken]

theorem Standing.news_earlier (h : Standing e partners (jobs past) answered w)
    (hbreak : BreaksDown e partners (jobs past) number before)
    (hhears : ∀ number, w.Hears number answered[number]?) {job : Job}
    (hjob : job ∈ (jobs past).take number) :
    (job.channel = .future ∧ job.number ∈ w.forgotten) ∨
    (w.phase.isBroken = false ∧ w.news job = []) ∨
    ∃ result outcome, before.results[job.number]? = some result ∧
      job.Reports result outcome ∧ w.news job = [outcome] := by
  obtain ⟨hget, hlt⟩ := getElem?_of_mem_take hjob
  obtain ⟨-, hresults⟩ := h.answered_prefix hbreak
  have hjobHears := hhears job.number
  cases hanswer : answered[job.number]? with
  | none =>
      rw [hanswer] at hjobHears
      have hsound : w.phase.isBroken = false := by
        by_contra hbroken
        obtain ⟨heq, -⟩ := h.at_breakdown hbreak (by simpa using hbroken)
        have := List.getElem?_eq_none_iff.mp hanswer
        omega
      refine Or.inr (Or.inl ⟨hsound, ?_⟩)
      rw [news_of_sent_eq_nil hjobHears.sent_eq_nil, droppedNews, hasLost_eq_false hsound]
      cases job.channel <;> rfl
  | some answer =>
      obtain ⟨done, result⟩ := answer
      have hdone : done = job := by
        have hsame : ((jobs past).take answered.length)[job.number]? = some done := by
          rw [h.take_answered, List.getElem?_map, hanswer]
          rfl
        have hlength : job.number < answered.length := (List.getElem?_eq_some_iff.mp hanswer).1
        rw [List.getElem?_take_of_lt hlength, hget] at hsame
        exact (Option.some.inj hsame).symm
      subst hdone
      rw [hanswer] at hjobHears
      cases hjobHears with
      | once hsent =>
          refine Or.inr (Or.inr ⟨result, _, ?_, done.reports_outcome result, news_of_sent hsent⟩)
          obtain ⟨rest, hrest⟩ := hresults
          have hlength : done.number < (answered.map Prod.snd).length := by
            rw [List.length_map]
            exact (List.getElem?_eq_some_iff.mp hanswer).1
          rw [← hrest, List.getElem?_append_left hlength, List.getElem?_map, hanswer]
          rfl
      | missed hchannel hforgotten _ => exact Or.inl ⟨hchannel, hforgotten⟩

theorem Standing.news_later (h : Standing e partners (jobs past) answered w)
    (hbreak : BreaksDown e partners (jobs past) number before)
    (hhears : ∀ number, w.Hears number answered[number]?) {job : Job}
    (hjob : job ∈ (jobs past).drop number) : w.news job = w.droppedNews job := by
  obtain ⟨-, hle⟩ := getElem?_of_mem_drop hjob
  obtain ⟨hanswered, -⟩ := h.answered_prefix hbreak
  apply news_of_sent_eq_nil
  apply Hears.sent_eq_nil
  rw [← List.getElem?_eq_none (Nat.le_trans hanswered hle)]
  exact hhears job.number

theorem droppedNews_of_hasLost {job : Job} (hchannel : job.channel = .future)
    (hlost : w.hasLost job.number = true) :
    w.droppedNews job = [.yielded (.error .dropped)] := by
  rw [droppedNews, hchannel, hlost]
  rfl

theorem phase_of_shutdown? (hended : w.shutdown? ≠ none) :
    w.phase = .stopped ∨ (w.phase = .gone ∧ w.shutdown? = some (.error .panicked)) := by
  cases hphase : w.phase <;> simp_all [shutdown?]

/-- At any point of any schedule that has broken the worker down there is a job over which the SIM
breaks down.  If there is such a job, then at any point before and after that, its aftermath is as
described. -/
theorem breakdown_aftermath (h : History (start e partners) past w) :
    (w.phase.isBroken = true →
      ∃ number before, BreaksDown e partners (jobs past) number before) ∧
    ∀ number before, BreaksDown e partners (jobs past) number before →
      Aftermath past w number before := by
  obtain ⟨answered, hstanding, hhears⟩ := h.standing
  constructor
  · exact hstanding.exists_breaksDown
  intro number before hbreak
  have hlost (job : Job) (hjob : job ∈ (jobs past).drop number) (hgone : w.phase = .gone) :
      w.hasLost job.number = true := by
    have hlt := (List.getElem?_eq_some_iff.mp (getElem?_of_mem_drop hjob).1).1
    simpa [hasLost, hgone, h.accepted_eq] using hlt
  have hshutdown (hended : w.shutdown? ≠ none) :
      w.shutdown? = some (.error .panicked) ∧ w.phase = .gone := by
    rcases phase_of_shutdown? hended with hstopped | ⟨hgone, hreport⟩
    · exact absurd hstopped (hstanding.not_stopped hbreak)
    · exact ⟨hreport, hgone⟩
  constructor
  case said =>
    cases hphase : w.phase.isBroken with
    | false =>
        obtain ⟨-, -, hturns⟩ := hstanding.before_breakdown hbreak hphase
        exact hturns.trans (List.prefix_append _ _)
    | true =>
        obtain ⟨-, -, hturns, -⟩ := hstanding.at_breakdown hbreak hphase
        exact hturns ▸ List.prefix_rfl
  case said_all =>
    intro hbroken
    obtain ⟨-, -, hturns, -⟩ := hstanding.at_breakdown hbreak hbroken
    exact hturns
  case earlier =>
    intro job hjob
    rcases hstanding.news_earlier hbreak hhears hjob with ⟨hchannel, hforgotten⟩ | hrest
    · exact Or.inl ⟨hchannel, h.forgot_of_mem hforgotten⟩
    · exact Or.inr hrest
  case later =>
    intro job hjob
    rw [hstanding.news_later hbreak hhears hjob, droppedNews]
    cases job.channel with
    | future =>
        by_cases hnumber : w.hasLost job.number = true
        · simp [hnumber]
        · simp [hnumber]
    | callback => exact Or.inl rfl
  case broken =>
    intro job hjob hchannel hbroken
    have hmem : job ∈ (jobs past).drop number := by
      apply List.mem_of_getElem? (i := 0)
      rw [List.getElem?_drop]
      exact hjob
    obtain rfl := number_eq_of_getElem?_jobs hjob
    rw [hstanding.news_later hbreak hhears hmem]
    apply droppedNews_of_hasLost hchannel
    obtain ⟨-, -, -, ⟨other, hphase, hnumber⟩ | hgone⟩ := hstanding.at_breakdown hbreak hbroken
    · simp [hasLost, hphase, hnumber]
    · exact hlost job hmem hgone
  case behind =>
    intro job hjob hchannel hgone
    rw [hstanding.news_later hbreak hhears hjob]
    exact droppedNews_of_hasLost hchannel (hlost job hjob hgone)
  case refused =>
    intro more next hgone hmore carrier channel
    exact submit_of_gone (hmore.gone hgone) carrier channel
  case shutdown => exact hshutdown
  case going =>
    rcases w.waiting_or_ended_or_step with hwaiting | ⟨hended, hdelivered⟩ | hstep
    · exact absurd hwaiting (hstanding.not_waiting hbreak)
    · exact Or.inl ⟨(hshutdown hended).1, hdelivered⟩
    · exact Or.inr hstep
  case bounded =>
    intro own next hown hall
    have hle := hown.length_add_left_le hall
    omega

namespace Rehearsed

/-- No connection at first, then a challenge over which the SIM breaks down. -/
def failing : Partners where
  replies := [
    .error (.connect "refused"),
    .ok "[\x7b\"message-id\": 1, \"response-code\": 1003, \"aka-challenge\": \"c\"\x7d]"]
  afterwards := .error (.connect "script exhausted")
  sim := fun _ _ => .breaksDown
  asked := 0

def first : Engine := Engine.Rehearsed.first

/-- Three jobs, of which the second one breaks the worker down; a fourth one is accepted before the
queue is given up, and a fifth one refused after that. -/
def brokenSchedule : List Action :=
  [.accepted carrier .future, .took, .accepted carrier .callback, .accepted carrier .future, .ran,
    .replied, .took, .ran, .accepted carrier .future, .gaveUp, .refused carrier .future, .closed]

def beforeBreakdown : Series where
  engine := first
  partners := (first.fetch.play failing).partners
  results := [.error (.transport (.connect "refused"))]
  turns := (first.fetch.play failing).turns

set_option maxRecDepth 20000 in
theorem breaksDown : BreaksDown first failing (jobs brokenSchedule) 1 beforeBreakdown where
  number_lt := by decide
  before_eq := rfl
  panics := ⟨"c", .tail _ (.head _)⟩

set_option maxRecDepth 20000 in
theorem brokenHistory :
    ∃ w, History (start first failing) brokenSchedule w ∧ w.phase = .gone := by
  have hstart : History (start first failing) [] (start first failing) := .new
  have hfirst := hstart.next (.accepted rfl : Step _ (.accepted carrier .future) _)
  have htook := hfirst.next (.took rfl)
  have hcallback := htook.next (.accepted rfl : Step _ (.accepted carrier .callback) _)
  have hthird := hcallback.next (.accepted rfl : Step _ (.accepted carrier .future) _)
  have hreplied := (hthird.next (.ran rfl)).next (.replied rfl)
  have hbroken := (hreplied.next (.took rfl)).next (.ran rfl)
  have hfourth := hbroken.next (.accepted rfl : Step _ (.accepted carrier .future) _)
  have hgone := hfourth.next (.gaveUp rfl)
  have hrefused := hgone.next (.refused rfl : Step _ (.refused carrier .future) _)
  exact ⟨_, hrefused.next (.closed _), rfl⟩

end Rehearsed

theorem rehearsed_breakdown_aftermath :
    ∃ w, History (start Rehearsed.first Rehearsed.failing) Rehearsed.brokenSchedule w ∧
      BreaksDown Rehearsed.first Rehearsed.failing (jobs Rehearsed.brokenSchedule) 1
        Rehearsed.beforeBreakdown ∧
      w.phase = .gone ∧
      (∃ outcome, Job.Reports ⟨0, Rehearsed.carrier, .future⟩
          (.error (.transport (.connect "refused"))) outcome ∧
        w.news ⟨0, Rehearsed.carrier, .future⟩ = [outcome]) ∧
      w.news ⟨1, Rehearsed.carrier, .callback⟩ = [] ∧
      w.news ⟨3, Rehearsed.carrier, .future⟩ = [.yielded (.error .dropped)] := by
  obtain ⟨w, hpast, hgone⟩ := Rehearsed.brokenHistory
  have hbroken : w.phase.isBroken = true := by rw [hgone]; rfl
  have haftermath := (breakdown_aftermath hpast).2 1 _ Rehearsed.breaksDown
  refine ⟨w, hpast, Rehearsed.breaksDown, hgone, ?_, ?_, ?_⟩
  · have hjob : ⟨0, Rehearsed.carrier, .future⟩ ∈ (jobs Rehearsed.brokenSchedule).take 1 :=
      List.mem_singleton_self _
    rcases haftermath.earlier hjob with ⟨-, hforgot⟩ | ⟨hsound, -⟩ | hreported
    · simp [Rehearsed.brokenSchedule] at hforgot
    · rw [hbroken] at hsound
      cases hsound
    · obtain ⟨result, outcome, hresult, hreports, hnews⟩ := hreported
      cases hresult
      exact ⟨outcome, hreports, hnews⟩
  · have hjob : ⟨1, Rehearsed.carrier, .callback⟩ ∈ (jobs Rehearsed.brokenSchedule).drop 1 :=
      List.mem_cons_self
    rcases haftermath.later hjob with hnothing | ⟨hchannel, -⟩
    · exact hnothing
    · cases hchannel
  · have hjob : ⟨3, Rehearsed.carrier, .future⟩ ∈ (jobs Rehearsed.brokenSchedule).drop 1 :=
      .tail _ (.tail _ (.head _))
    exact haftermath.behind hjob rfl hgone

end ImsiPseudonym.Worker
