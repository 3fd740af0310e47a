import ImsiPseudonym.Dialogue.Rehearsal

/-!
How far a dialogue has come.  After some turns a dialogue has become another one, which is what
remains to be said.  Here both partners may say anything at any time; `play_progress` places a
played dialogue among these.
-/
namespace ImsiPseudonym.Dialogue

variable {α : Type}

/-- After these turns, this is what remains of the dialogue. -/
inductive After : Dialogue α → List Turn → Dialogue α → Prop where
  | start (d : Dialogue α) : After d [] d
  | reply {request : Request} {next : Reply → Dialogue α} {turns : List Turn} {rest : Dialogue α}
      (reply : Reply) (h : After (next reply) turns rest) :
      After (.send request next) (.sent request reply :: turns) rest
  | answer {challenge : String} {next : SimAnswer → Dialogue α} {turns : List Turn}
      {rest : Dialogue α} (answer : SimAnswer) (h : After (next answer) turns rest) :
      After (.ask challenge next) (.asked challenge (.answers answer) :: turns) rest

/-- How a dialogue can be played: to its end, or up to a challenge where the SIM breaks down. -/
inductive Progress (d : Dialogue α) : Option α → List Turn → Prop where
  | finished {result : α} {turns : List Turn} (h : d.After turns (.done result)) :
      Progress d (some result) turns
  | brokenDown {challenge : String} {next : SimAnswer → Dialogue α} {turns : List Turn}
      (h : d.After turns (.ask challenge next)) :
      Progress d none (turns ++ [.asked challenge .breaksDown])

private theorem Progress.reply {request : Request} {next : Reply → Dialogue α} {result : Option α}
    {turns : List Turn} (reply : Reply) (h : (next reply).Progress result turns) :
    (Dialogue.send request next).Progress result (.sent request reply :: turns) := by
  cases h with
  | finished h => exact .finished (.reply reply h)
  | brokenDown h => exact .brokenDown (.reply reply h)

private theorem Progress.answer {challenge : String} {next : SimAnswer → Dialogue α}
    {result : Option α} {turns : List Turn} (answer : SimAnswer)
    (h : (next answer).Progress result turns) :
    (Dialogue.ask challenge next).Progress result
      (.asked challenge (.answers answer) :: turns) := by
  cases h with
  | finished h => exact .finished (.answer answer h)
  | brokenDown h => exact .brokenDown (.answer answer h)

/-- Whatever the partners, a dialogue is played in one of these two ways. -/
theorem play_progress (d : Dialogue α) (partners : Partners) :
    d.Progress (d.play partners).result (d.play partners).turns := by
  induction d generalizing partners with
  | done result => exact .finished (.start _)
  | send request next ih => exact .reply partners.reply.1 (ih _ _)
  | ask challenge next ih =>
      cases hreaction : partners.sim partners.asked challenge with
      | breaksDown =>
          simp only [play, Partners.react, hreaction]
          exact Progress.brokenDown (.start _)
      | answers answer =>
          simp only [play, Partners.react, hreaction]
          exact .answer answer (ih _ _)

/-- No turn of a finished dialogue is one over which the SIM breaks down. -/
theorem After.not_breaksDown {d rest : Dialogue α} {turns : List Turn} (h : d.After turns rest)
    (challenge : String) : .asked challenge .breaksDown ∉ turns := by
  induction h with
  | start => simp
  | reply _ _ ih => simpa using ih
  | answer _ _ ih => simpa using ih

/-- A dialogue has no result exactly if the SIM breaks down over a challenge. -/
theorem Progress.eq_none_iff {d : Dialogue α} {result : Option α} {turns : List Turn}
    (h : d.Progress result turns) :
    result = none ↔ ∃ challenge, .asked challenge .breaksDown ∈ turns := by
  cases h with
  | finished h =>
      constructor
      · intro hnone
        cases hnone
      · rintro ⟨challenge, hmem⟩
        exact absurd hmem (h.not_breaksDown challenge)
  | @brokenDown challenge _ turns h => simp

end ImsiPseudonym.Dialogue
