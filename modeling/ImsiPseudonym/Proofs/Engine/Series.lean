import ImsiPseudonym.Dialogue.Rehearsal
import ImsiPseudonym.Engine

/-!
Fetches one after the other.  Each finds the engine and the partners as the one before it has left
them.
-/
namespace ImsiPseudonym

/-- What some fetches have come to. -/
structure Series where
  engine : Engine
  partners : Partners
  results : List FetchResult
  turns : List Turn

/-- The same with one more fetch, unless the SIM breaks that down.  The carrier of a fetch is for the
log alone. -/
def Series.next? (s : Series) (_carrier : CarrierId) : Option Series :=
  let played := s.engine.fetch.play s.partners
  played.result.map fun (result, engine) =>
    ⟨engine, played.partners, s.results ++ [result], s.turns ++ played.turns⟩

namespace Engine

def fetchEach? (e : Engine) (partners : Partners) (carriers : List CarrierId) : Option Series :=
  carriers.foldlM Series.next? ⟨e, partners, [], []⟩

theorem fetchEach?_append_singleton (e : Engine) (partners : Partners)
    (carriers : List CarrierId) (carrier : CarrierId) :
    e.fetchEach? partners (carriers ++ [carrier]) =
      (e.fetchEach? partners carriers).bind (·.next? carrier) := by
  rw [fetchEach?, List.foldlM_append]
  refine congrArg (Option.bind _) (funext fun s => ?_)
  simp

/-- More fetches keep all that has come of those before them. -/
theorem prefix_of_foldlM_next? {carriers : List CarrierId} {s t : Series}
    (h : carriers.foldlM Series.next? s = some t) :
    s.results <+: t.results ∧ s.turns <+: t.turns := by
  induction carriers generalizing s with
  | nil =>
      cases h
      exact ⟨List.prefix_rfl, List.prefix_rfl⟩
  | cons carrier carriers ih =>
      rw [List.foldlM_cons, Option.bind_eq_bind, Option.bind_eq_some_iff] at h
      obtain ⟨u, hfirst, hrest⟩ := h
      obtain ⟨⟨result, engine⟩, -, rfl⟩ := Option.map_eq_some_iff.mp hfirst
      obtain ⟨hresults, hturns⟩ := ih hrest
      constructor
      · exact (List.prefix_append _ _).trans hresults
      · exact (List.prefix_append _ _).trans hturns

/-- Where some fetches come to an end, so do the first of them. -/
theorem exists_of_fetchEach?_take {e : Engine} {partners : Partners} {carriers : List CarrierId}
    {fewer count : Nat} {t : Series} (hle : fewer ≤ count)
    (h : e.fetchEach? partners (carriers.take count) = some t) :
    ∃ s, e.fetchEach? partners (carriers.take fewer) = some s ∧
      s.results <+: t.results ∧ s.turns <+: t.turns := by
  have hsplit := List.take_append_drop fewer (carriers.take count)
  rw [List.take_take, Nat.min_eq_left hle] at hsplit
  rw [← hsplit, fetchEach?, List.foldlM_append, Option.bind_eq_bind, Option.bind_eq_some_iff] at h
  obtain ⟨s, hfirst, hrest⟩ := h
  exact ⟨s, hfirst, prefix_of_foldlM_next? hrest⟩

end Engine
end ImsiPseudonym
