/-!
Tables: keys in ascending order, each with one value.  Inserting under a key that is there replaces
its value, so of several insertions under one key the last one counts.  Main statements:
`get?_insert`, `sorted_insert`, `insert_comm` and `get?_ofList`.
-/
namespace ImsiPseudonym

/-- Keys with their values, in ascending order of the keys. -/
abbrev Table (κ α : Type) := List (κ × α)

namespace Table

variable {κ α : Type} [Ord κ]

def get? (t : Table κ α) (key : κ) : Option α :=
  (t.find? fun entry => compare key entry.1 == .eq).map Prod.snd

/-- Puts a value under a key, in place of the one that was there. -/
def insert (key : κ) (value : α) : Table κ α → Table κ α
  | [] => [(key, value)]
  | (other, kept) :: rest =>
    match compare key other with
    | .lt => (key, value) :: (other, kept) :: rest
    | .eq => (key, value) :: rest
    | .gt => (other, kept) :: insert key value rest

/-- The table that holds, for each key, its last value in a list of entries. -/
def ofList (entries : List (κ × α)) : Table κ α :=
  entries.foldl (fun t (key, value) => insert key value t) []

def keys (t : Table κ α) : List κ :=
  t.map Prod.fst

/-- Each key comes before all keys after it. -/
def Sorted (t : Table κ α) : Prop :=
  t.Pairwise fun a b => compare a.1 b.1 = .lt

@[simp] theorem get?_nil (key : κ) : get? ([] : Table κ α) key = none := rfl

theorem get?_cons (key other : κ) (value : α) (t : Table κ α) :
    get? ((other, value) :: t) key =
      if compare key other = .eq then some value else get? t key := by
  by_cases h : compare key other = .eq <;> simp [get?, h]

/-- Under the inserted key stands the new value; under any other key, what stood there before. -/
theorem get?_insert [Std.LawfulEqOrd κ] [DecidableEq κ] (t : Table κ α) (key other : κ) (value : α) :
    get? (insert key value t) other = if other = key then some value else get? t other := by
  induction t with
  | nil => simp [insert, get?_cons]
  | cons entry rest ih =>
    obtain ⟨first, kept⟩ := entry
    unfold insert
    split
    · simp [get?_cons]
    · rename_i heq
      have hkey : key = first := Std.LawfulEqOrd.compare_eq_iff_eq.1 heq
      subst hkey
      simp only [get?_cons, Std.LawfulEqOrd.compare_eq_iff_eq]
      split <;> rfl
    · rename_i hgt
      have hne : key ≠ first := by
        intro h
        have := Std.LawfulEqOrd.compare_eq_iff_eq.2 h
        simp [this] at hgt
      simp only [get?_cons, Std.LawfulEqOrd.compare_eq_iff_eq, ih]
      by_cases h : other = key
      · simp [h, hne]
      · simp [h]

theorem mem_keys_iff [Std.LawfulEqOrd κ] {t : Table κ α} {key : κ} :
    key ∈ keys t ↔ (get? t key).isSome = true := by
  induction t with
  | nil => simp [keys]
  | cons entry rest ih =>
    have hhead : key = entry.1 ↔ compare key entry.1 = .eq :=
      Std.LawfulEqOrd.compare_eq_iff_eq.symm
    rw [get?_cons, keys, List.map_cons, List.mem_cons, hhead]
    split
    · rename_i heq
      simp [heq]
    · rename_i hne
      simp [hne, ← ih, keys]

theorem mem_keys_insert [Std.LawfulEqOrd κ] [DecidableEq κ] {t : Table κ α} {key other : κ}
    {value : α} : other ∈ keys (insert key value t) ↔ other = key ∨ other ∈ keys t := by
  rw [mem_keys_iff, mem_keys_iff, get?_insert]
  by_cases h : other = key <;> simp [h]

theorem mem_insert {t : Table κ α} {key : κ} {value : α} {entry : κ × α}
    (h : entry ∈ insert key value t) : entry = (key, value) ∨ entry ∈ t := by
  induction t with
  | nil => simpa [insert] using h
  | cons head rest ih =>
    obtain ⟨first, kept⟩ := head
    unfold insert at h
    split at h
    · simpa using h
    · simp only [List.mem_cons] at h ⊢
      rcases h with h | h
      · exact Or.inl h
      · exact Or.inr (Or.inr h)
    · simp only [List.mem_cons] at h ⊢
      rcases h with h | h
      · exact Or.inr (Or.inl h)
      · rcases ih h with h | h
        · exact Or.inl h
        · exact Or.inr (Or.inr h)

theorem sorted_insert [Std.LawfulEqOrd κ] [Std.TransOrd κ] {t : Table κ α} (h : Sorted t)
    (key : κ) (value : α) : Sorted (insert key value t) := by
  induction t with
  | nil => simp [insert, Sorted]
  | cons head rest ih =>
    obtain ⟨first, kept⟩ := head
    have hparts := List.pairwise_cons.1 h
    unfold insert
    split
    · rename_i hlt
      refine List.pairwise_cons.2 ⟨?_, h⟩
      intro entry hentry
      rcases List.mem_cons.1 hentry with rfl | hentry
      · exact hlt
      · exact Std.TransCmp.lt_trans hlt (hparts.1 entry hentry)
    · rename_i heq
      have hkey : key = first := Std.LawfulEqOrd.compare_eq_iff_eq.1 heq
      subst hkey
      exact List.pairwise_cons.2 ⟨hparts.1, hparts.2⟩
    · rename_i hgt
      refine List.pairwise_cons.2 ⟨?_, ih hparts.2⟩
      intro entry hentry
      rcases mem_insert hentry with rfl | hentry
      · exact Std.OrientedCmp.lt_of_gt hgt
      · exact hparts.1 entry hentry

/-- Of two values put under one key the second one stays. -/
theorem insert_insert [Std.LawfulEqOrd κ] (key : κ) (value other : α) (t : Table κ α) :
    insert key other (insert key value t) = insert key other t := by
  induction t with
  | nil => simp [insert]
  | cons head rest ih =>
    obtain ⟨first, kept⟩ := head
    cases h : compare key first <;> simp [insert, h, ih]

private theorem insert_comm_of_lt [Std.LawfulEqOrd κ] [Std.TransOrd κ] {key other : κ}
    (h : compare key other = .lt) (x y : α) (t : Table κ α) :
    insert key x (insert other y t) = insert other y (insert key x t) := by
  have hgt : compare other key = .gt := Std.OrientedCmp.gt_of_lt h
  induction t with
  | nil => simp [insert, h, hgt]
  | cons head rest ih =>
    obtain ⟨first, kept⟩ := head
    cases hother : compare other first with
    | lt =>
      have hkey : compare key first = .lt := Std.TransCmp.lt_trans h hother
      simp [insert, hother, hkey, h, hgt]
    | eq =>
      obtain rfl : other = first := Std.LawfulEqOrd.compare_eq_iff_eq.1 hother
      simp [insert, h, hgt]
    | gt =>
      cases hkey : compare key first <;> simp [insert, hother, hkey, hgt, ih]

theorem insert_comm [Std.LawfulEqOrd κ] [Std.TransOrd κ] {key other : κ} (h : key ≠ other)
    (x y : α) (t : Table κ α) :
    insert key x (insert other y t) = insert other y (insert key x t) := by
  cases hkeys : compare key other with
  | lt => exact insert_comm_of_lt hkeys x y t
  | eq => exact absurd (Std.LawfulEqOrd.compare_eq_iff_eq.1 hkeys) h
  | gt => exact (insert_comm_of_lt (Std.OrientedCmp.lt_of_gt hkeys) y x t).symm

/-- A key beyond all others is put at the end. -/
theorem insert_of_forall_lt [Std.OrientedOrd κ] {t : Table κ α} {key : κ} (value : α)
    (h : ∀ entry ∈ t, compare entry.1 key = .lt) : insert key value t = t ++ [(key, value)] := by
  induction t with
  | nil => rfl
  | cons head rest ih =>
    obtain ⟨first, kept⟩ := head
    have hgt : compare key first = .gt := Std.OrientedCmp.gt_of_lt (h _ List.mem_cons_self)
    simp [insert, hgt, ih fun entry hentry => h entry (List.mem_cons_of_mem _ hentry)]

/-- Entries that go on in order are put at the end, one after the other. -/
theorem foldl_insert_of_sorted [Std.OrientedOrd κ] {t entries : Table κ α}
    (h : Sorted (t ++ entries)) :
    entries.foldl (fun t (key, value) => insert key value t) t = t ++ entries := by
  induction entries generalizing t with
  | nil => simp
  | cons entry entries ih =>
    obtain ⟨key, value⟩ := entry
    have hlast : ∀ other ∈ t, compare other.1 key = .lt := by
      intro other hother
      exact (List.pairwise_append.1 h).2.2 other hother (key, value) List.mem_cons_self
    have hnext : Sorted (insert key value t ++ entries) := by
      rw [insert_of_forall_lt value hlast]
      simpa using h
    rw [List.foldl_cons, ih hnext, insert_of_forall_lt value hlast]
    simp

theorem ofList_of_sorted [Std.OrientedOrd κ] {t : Table κ α} (h : Sorted t) : ofList t = t :=
  foldl_insert_of_sorted h

theorem sorted_ofList [Std.LawfulEqOrd κ] [Std.TransOrd κ] (entries : List (κ × α)) :
    Sorted (ofList entries) := by
  apply List.foldlRecOn entries _ List.Pairwise.nil
  intro t h entry _
  exact sorted_insert h entry.1 entry.2

/-- In a table made of a list of entries, the last entry of each key counts. -/
theorem get?_ofList [Std.LawfulEqOrd κ] [DecidableEq κ] (entries : List (κ × α)) (key : κ) :
    get? (ofList entries) key =
      (entries.reverse.find? fun entry => entry.1 = key).map Prod.snd := by
  have hfrom (t : Table κ α) :
      get? (entries.foldl (fun t (key, value) => insert key value t) t) key =
        ((entries.reverse.find? fun entry => entry.1 = key).map Prod.snd).or (get? t key) := by
    induction entries generalizing t with
    | nil => rfl
    | cons entry entries ih =>
      obtain ⟨other, value⟩ := entry
      rw [List.foldl_cons, ih, get?_insert, List.reverse_cons, List.find?_append]
      by_cases hkey : key = other
      · cases entries.reverse.find? fun entry => entry.1 = key <;> simp [hkey]
      · cases entries.reverse.find? fun entry => entry.1 = key <;> simp [hkey, Ne.symm hkey]
  rw [ofList, hfrom []]
  simp

theorem mem_of_mem_ofList {entries : List (κ × α)} {entry : κ × α} (h : entry ∈ ofList entries) :
    entry ∈ entries := by
  have hall : ∀ entry ∈ ofList entries, entry ∈ entries := by
    apply List.foldlRecOn (motive := fun t => ∀ entry ∈ t, entry ∈ entries) entries _
      (List.forall_mem_nil _)
    intro t hkept other hother entry hmem
    rcases mem_insert hmem with rfl | hmem
    · exact hother
    · exact hkept entry hmem
  exact hall entry h

end Table
end ImsiPseudonym
