import Mathlib.Data.List.Nodup
import ImsiPseudonym.Message.Entry

/-!
Tables of handlers.  A walk calls the first handler of an entry's message id and no other, once for
each entry, in the order of the array.  So handlers that stand behind one of their own id do nothing,
and where the ids are different the order of the table does not count.
-/
namespace ImsiPseudonym.Message

open Json

variable {α : Type} {handlers others before after : List (Handler α)} {handler : Handler α}
  {id : Int} {place : Nat}

/-- The handler that the entries of a message id are given to. -/
def firstOf? (handlers : List (Handler α)) (id : Int) : Option (Handler α) :=
  handlers.find? fun handler => handler.id == id

theorem firstOf?_append (before after : List (Handler α)) (id : Int) :
    firstOf? (before ++ after) id = (firstOf? before id).or (firstOf? after id) :=
  List.find?_append

theorem firstOf?_cons_of_eq (hid : handler.id = id) (after : List (Handler α)) :
    firstOf? (handler :: after) id = some handler := by
  simp [firstOf?, hid]

theorem firstOf?_cons_of_ne (hid : handler.id ≠ id) (after : List (Handler α)) :
    firstOf? (handler :: after) id = firstOf? after id := by
  simp [firstOf?, hid]

theorem firstOf?_eq_none_iff : firstOf? handlers id = none ↔ id ∉ handlers.map Handler.id := by
  simp [firstOf?]

/-- The first handler of a message id stands behind so many others. -/
def FirstAt (handlers : List (Handler α)) (id : Int) (place : Nat) : Prop :=
  ∃ before handler after, handlers = before ++ handler :: after ∧ before.length = place ∧
    handler.id = id ∧ id ∉ before.map Handler.id

theorem firstOf?_of_not_mem_before (hid : handler.id = id) (hbefore : id ∉ before.map Handler.id)
    (after : List (Handler α)) : firstOf? (before ++ handler :: after) id = some handler := by
  rw [firstOf?_append, firstOf?_eq_none_iff.mpr hbefore, Option.none_or, firstOf?_cons_of_eq hid]

theorem exists_firstAt (h : id ∈ handlers.map Handler.id) : ∃ place, FirstAt handlers id place := by
  induction handlers with
  | nil => cases h
  | cons head handlers ih =>
      by_cases hhead : head.id = id
      · exact ⟨0, [], head, handlers, rfl, rfl, hhead, List.not_mem_nil⟩
      · have htail : id ∈ handlers.map Handler.id := by
          rcases List.mem_cons.mp h with heq | hmem
          · exact absurd heq.symm hhead
          · exact hmem
        obtain ⟨-, before, handler, after, rfl, -, hid, hbefore⟩ := ih htail
        refine ⟨before.length + 1, head :: before, handler, after, rfl, rfl, hid, ?_⟩
        rw [List.map_cons, List.mem_cons, not_or]
        exact ⟨Ne.symm hhead, hbefore⟩

/-- Both tables have the same first handler of each id. -/
def SameFirst (handlers others : List (Handler α)) : Prop :=
  ∀ id, firstOf? handlers id = firstOf? others id

theorem SameFirst.dispatch (h : SameFirst handlers others) :
    dispatch handlers = Message.dispatch others := by
  funext gathered item
  unfold Message.dispatch
  split
  · rename_i entry
    have hfirst := h (entryId entry)
    unfold firstOf? at hfirst
    rw [hfirst]
  · rfl

theorem SameFirst.gather (h : SameFirst handlers others) (start : α) (body : String) :
    gather handlers start body = Message.gather others start body := by
  unfold Message.gather walk
  rw [h.dispatch]

/-- A handler behind one of its own id is not the first of any. -/
theorem sameFirst_of_shadowed (h : handler.id ∈ before.map Handler.id) :
    SameFirst (before ++ after) (before ++ handler :: after) := by
  intro id
  rw [firstOf?_append, firstOf?_append]
  by_cases hid : handler.id = id
  · have hsome : firstOf? before id ≠ none := by
      rw [Ne, firstOf?_eq_none_iff, not_not]
      exact hid ▸ h
    obtain ⟨found, hfound⟩ := Option.ne_none_iff_exists'.mp hsome
    rw [hfound, Option.some_or, Option.some_or]
  · rw [firstOf?_cons_of_ne hid]

/-- If the ids are different, the first handler of an id is the only one. -/
theorem firstOf?_eq_some_iff (hnodup : (handlers.map Handler.id).Nodup) :
    firstOf? handlers id = some handler ↔ handler ∈ handlers ∧ handler.id = id := by
  constructor
  · intro h
    have hid := List.find?_some h
    exact ⟨List.mem_of_find?_eq_some h, beq_iff_eq.mp hid⟩
  · rintro ⟨hmem, rfl⟩
    obtain ⟨before, after, rfl⟩ := List.append_of_mem hmem
    apply firstOf?_of_not_mem_before rfl
    rw [List.map_append, List.map_cons] at hnodup
    intro hbefore
    exact List.disjoint_of_nodup_append hnodup hbefore List.mem_cons_self

theorem sameFirst_of_perm (hperm : others.Perm handlers)
    (hnodup : (handlers.map Handler.id).Nodup) : SameFirst others handlers := by
  have hnodup' : (others.map Handler.id).Nodup := (hperm.map Handler.id).nodup_iff.mpr hnodup
  intro id
  apply Option.ext
  intro handler
  rw [firstOf?_eq_some_iff hnodup, firstOf?_eq_some_iff hnodup', hperm.mem_iff]

theorem SameFirst.between (h : SameFirst handlers others) (before after : List (Handler α)) :
    SameFirst (before ++ handlers ++ after) (before ++ others ++ after) := by
  intro id
  rw [firstOf?_append, firstOf?_append, firstOf?_append, firstOf?_append, h id]

/-- One call: the place of a handler in its table, and the entry that it is given. -/
structure Call where
  place : Nat
  entry : Object

/-- Carries out a call. -/
def Call.make (handlers : List (Handler α)) (gathered : α) (call : Call) : α :=
  match handlers[call.place]? with
  | some handler => handler.extract gathered call.entry
  | none => gathered

/-- The handler at a place of its table, which besides its work notes that it is called. -/
def Handler.noting (place : Nat) (handler : Handler α) : Handler (α × List Call) where
  id := handler.id
  extract gathered entry := (handler.extract gathered.1 entry, gathered.2 ++ [⟨place, entry⟩])

/-- An element of an array as an entry. -/
def object? : Value → Option Object
  | .object entry => some entry
  | _ => none

/-- These are the calls for an array: its entries with an id of the table, in order, each given to
the first handler of its id. -/
structure CallsOf (handlers : List (Handler α)) (items : List Value) (calls : List Call) :
    Prop where
  entries : calls.map Call.entry =
    (items.filterMap object?).filter fun entry => entryId entry ∈ handlers.map Handler.id
  first : ∀ call ∈ calls, FirstAt handlers (entryId call.entry) call.place

variable {items : List Value} {item : Value} {entry : Object} {calls : List Call}

theorem CallsOf.cons (h : CallsOf handlers items calls)
    (hfirst : FirstAt handlers (entryId entry) place) :
    CallsOf handlers (.object entry :: items) (⟨place, entry⟩ :: calls) := by
  have hmem : entryId entry ∈ handlers.map Handler.id := by
    obtain ⟨before, handler, after, rfl, -, hid, -⟩ := hfirst
    rw [← hid]
    exact List.mem_map_of_mem (List.mem_append_right before List.mem_cons_self)
  constructor
  · simp [object?, h.entries, List.mem_map.mp hmem]
  · intro call hcall
    rcases List.mem_cons.mp hcall with rfl | hcall
    · exact hfirst
    · exact h.first call hcall

/-- The element makes no call. -/
def PassedOver (handlers : List (Handler α)) (item : Value) : Prop :=
  ∀ entry, object? item = some entry → entryId entry ∉ handlers.map Handler.id

theorem CallsOf.passOver (h : CallsOf handlers items calls) (hitem : PassedOver handlers item) :
    CallsOf handlers (item :: items) calls := by
  constructor
  · rw [h.entries]
    cases hobject : object? item with
    | none => rw [List.filterMap_cons_none hobject]
    | some entry =>
        have hskipped := hitem entry hobject
        rw [List.filterMap_cons_some hobject, List.filter_cons_of_neg (by simpa using hskipped)]
  · exact h.first

theorem dispatch_of_passedOver (h : PassedOver handlers item) (gathered : α) :
    dispatch handlers gathered item = gathered := by
  unfold dispatch
  split
  · rename_i entry
    have hnone := firstOf?_eq_none_iff.mpr (h entry rfl)
    unfold firstOf? at hnone
    rw [hnone]
  · rfl

theorem dispatch_of_firstOf? (h : firstOf? handlers (entryId entry) = some handler) (gathered : α) :
    dispatch handlers gathered (.object entry) = handler.extract gathered entry := by
  unfold firstOf? at h
  rw [dispatch, h]

theorem map_id_noting (handlers : List (Handler α)) :
    (handlers.mapIdx Handler.noting).map Handler.id = handlers.map Handler.id := by
  apply List.ext_getElem?
  intro place
  simp [Handler.noting, Function.comp_def]

theorem dispatch_of_firstAt (h : FirstAt handlers (entryId entry) place) (gathered : α) :
    dispatch handlers gathered (.object entry) = Call.make handlers gathered ⟨place, entry⟩ := by
  obtain ⟨before, handler, after, rfl, rfl, hid, hbefore⟩ := h
  rw [dispatch_of_firstOf? (firstOf?_of_not_mem_before hid hbefore after)]
  simp [Call.make]

/-- A call is noted as what it is. -/
theorem dispatch_noting_of_firstAt (h : FirstAt handlers (entryId entry) place) (gathered : α)
    (noted : List Call) :
    dispatch (handlers.mapIdx Handler.noting) (gathered, noted) (.object entry) =
      (Call.make handlers gathered ⟨place, entry⟩, noted ++ [⟨place, entry⟩]) := by
  obtain ⟨before, handler, after, rfl, rfl, hid, hbefore⟩ := h
  have hbefore' : entryId entry ∉ (before.mapIdx Handler.noting).map Handler.id :=
    map_id_noting before ▸ hbefore
  have hid' : (handler.noting before.length).id = entryId entry := hid
  rw [List.mapIdx_append, List.mapIdx_cons, Nat.zero_add,
    dispatch_of_firstOf? (firstOf?_of_not_mem_before hid' hbefore' _)]
  simp [Call.make, Handler.noting]

theorem PassedOver.noting (h : PassedOver handlers item) :
    PassedOver (handlers.mapIdx Handler.noting) item := by
  intro entry hobject
  rw [map_id_noting]
  exact h entry hobject

theorem passedOver_or_exists_firstAt (handlers : List (Handler α)) (item : Value) :
    PassedOver handlers item ∨
      ∃ entry place, item = .object entry ∧ FirstAt handlers (entryId entry) place := by
  by_cases hcalled : ∃ entry, item = .object entry ∧ entryId entry ∈ handlers.map Handler.id
  · obtain ⟨entry, hitem, hid⟩ := hcalled
    obtain ⟨place, hfirst⟩ := exists_firstAt hid
    exact .inr ⟨entry, place, hitem, hfirst⟩
  · apply Or.inl
    intro entry hobject hid
    cases item with
    | object other => exact hcalled ⟨entry, congrArg Value.object (Option.some.inj hobject), hid⟩
    | _ => cases hobject

/-- A walk makes the calls for its array, one after the other, and no others. -/
theorem exists_callsOf (handlers : List (Handler α)) (gathered : α) (noted : List Call)
    (items : List Value) :
    ∃ calls, CallsOf handlers items calls ∧
      walk handlers gathered items = calls.foldl (Call.make handlers) gathered ∧
      walk (handlers.mapIdx Handler.noting) (gathered, noted) items =
        (walk handlers gathered items, noted ++ calls) := by
  induction items generalizing gathered noted with
  | nil => exact ⟨[], ⟨rfl, nofun⟩, rfl, by simp [walk]⟩
  | cons item items ih =>
      have hwalk : walk handlers gathered (item :: items) =
          walk handlers (dispatch handlers gathered item) items := rfl
      have hwalk' : walk (handlers.mapIdx Handler.noting) (gathered, noted) (item :: items) =
          walk (handlers.mapIdx Handler.noting)
            (dispatch (handlers.mapIdx Handler.noting) (gathered, noted) item) items := rfl
      rw [hwalk, hwalk']
      rcases passedOver_or_exists_firstAt handlers item with hpassed | ⟨entry, place, rfl, hfirst⟩
      · rw [dispatch_of_passedOver hpassed, dispatch_of_passedOver hpassed.noting]
        obtain ⟨calls, hcalls, hmade, hnoted⟩ := ih gathered noted
        exact ⟨calls, hcalls.passOver hpassed, hmade, hnoted⟩
      · rw [dispatch_of_firstAt hfirst, dispatch_noting_of_firstAt hfirst]
        obtain ⟨calls, hcalls, hmade, hnoted⟩ :=
          ih (Call.make handlers gathered ⟨place, entry⟩) (noted ++ [⟨place, entry⟩])
        refine ⟨⟨place, entry⟩ :: calls, hcalls.cons hfirst, hmade, ?_⟩
        rw [hnoted, List.append_assoc, List.singleton_append]

/-- A handler behind one of its own id does nothing, and handlers of different ids may change places.
An array is walked piece by piece.  For each entry with an id of the table, in order, there is one
call, of the first handler of that id; an entry without a usable id has the id -1. -/
theorem handlers_called_in_turn (handlers : List (Handler α)) (start : α) (body : String)
    (items : List Value) (hbody : items? body = some items) :
    (∀ before handler after, handlers = before ++ handler :: after →
      handler.id ∈ before.map Handler.id →
      gather (before ++ after) start body = gather handlers start body) ∧
    (∀ before moved moved' after, handlers = before ++ moved ++ after → moved'.Perm moved →
      (moved.map Handler.id).Nodup →
      gather (before ++ moved' ++ after) start body = gather handlers start body) ∧
    (∀ first second xs ys, items? first = some xs → items? second = some ys → items = xs ++ ys →
      gather handlers start body = gather handlers (gather handlers start first) second) ∧
    ∃ calls : List Call,
      calls.map Call.entry = ((items.filterMap object?).filter fun entry =>
        (intField? entry "message-id").getD (-1) ∈ handlers.map Handler.id) ∧
      (∀ call ∈ calls,
        FirstAt handlers ((intField? call.entry "message-id").getD (-1)) call.place) ∧
      gather handlers start body = calls.foldl (Call.make handlers) start ∧
      gather (handlers.mapIdx Handler.noting) (start, []) body =
        (gather handlers start body, calls) := by
  have hgather {β : Type} (table : List (Handler β)) (gathered : β) :
      gather table gathered body = walk table gathered items := by
    rw [gather, hbody]
  refine ⟨?_, ?_, ?_, ?_⟩
  · rintro before handler after rfl hshadowed
    exact (sameFirst_of_shadowed hshadowed).gather start body
  · rintro before moved moved' after rfl hperm hnodup
    exact ((sameFirst_of_perm hperm hnodup).between before after).gather start body
  · rintro first second xs ys hfirst hsecond rfl
    rw [hgather, walk_append, gather, hsecond, gather, hfirst]
  · obtain ⟨calls, hcalls, hmade, hnoted⟩ := exists_callsOf handlers start [] items
    rw [hgather, hgather]
    exact ⟨calls, hcalls.entries, hcalls.first, hmade, hnoted⟩

/-- A table with a handler for entries without an id, and one that is never called. -/
def Rehearsed.table : List (Handler (List String)) :=
  [⟨1, fun seen _ => seen ++ ["first"]⟩, ⟨-1, fun seen _ => seen ++ ["unset"]⟩,
    ⟨1, fun seen _ => seen ++ ["never"]⟩]

/-- Of its four elements two make a call: the one without an id, and the one that spells it. -/
def Rehearsed.body : String :=
  "[\x7b\x7d, 1, \x7b\"message-id\": 7\x7d, \x7b\"message-id\": \" +1\"\x7d]"

theorem rehearsed_handlers_called_in_turn :
    items? Rehearsed.body = some [.object [], .int 1, .object [("message-id", .int 7)],
      .object [("message-id", .string " +1")]] ∧
    gather Rehearsed.table [] Rehearsed.body = ["unset", "first"] ∧
    gather (Rehearsed.table.take 2).reverse [] Rehearsed.body = ["unset", "first"] := by
  have hbody : items? Rehearsed.body = some [.object [], .int 1, .object [("message-id", .int 7)],
      .object [("message-id", .string " +1")]] := rfl
  obtain ⟨hshadowed, -⟩ := handlers_called_in_turn Rehearsed.table [] _ _ hbody
  obtain ⟨-, hmoved, -⟩ := handlers_called_in_turn (Rehearsed.table.take 2) [] _ _ hbody
  have hall : gather Rehearsed.table [] Rehearsed.body = ["unset", "first"] := by decide +kernel
  have htwo : gather (Rehearsed.table.take 2) [] Rehearsed.body = ["unset", "first"] := by
    rw [← hall]
    exact hshadowed (Rehearsed.table.take 2) _ [] rfl (by decide)
  refine ⟨hbody, hall, ?_⟩
  rw [← htwo]
  exact hmoved [] (Rehearsed.table.take 2) _ [] rfl (List.reverse_perm _) (by decide)

end ImsiPseudonym.Message
