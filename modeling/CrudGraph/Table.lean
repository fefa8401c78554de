/-
Values keyed by name, in the order in which the names first came. Giving a name again replaces
its value and keeps its place. The members of a JSON object, the variables of a request and the
strategies of a configuration are tables.
-/
namespace CrudGraph

universe u

/-- Values keyed by name, in the order in which the names first came. -/
abbrev Table (α : Type u) := List (String × α)

namespace Table

variable {α : Type u}

/-- The value of a name. -/
def find? (t : Table α) (key : String) : Option α :=
  match t with
  | [] => none
  | (k, v) :: rest => if k = key then some v else find? rest key

/-- The table with `value` under `key`: in the key's place if it has one, else at the end. -/
def insert (t : Table α) (key : String) (value : α) : Table α :=
  match t with
  | [] => [(key, value)]
  | (k, v) :: rest => if k = key then (k, value) :: rest else (k, v) :: insert rest key value

/-- The table that arises from giving names one after the other. -/
def ofList (entries : List (String × α)) : Table α :=
  entries.foldl (fun t entry => insert t entry.1 entry.2) []

/-- The table without a name. -/
def erase (t : Table α) (key : String) : Table α :=
  t.filter fun entry => entry.1 ≠ key

/-- The names, in order. -/
def keys (t : Table α) : List String :=
  t.map Prod.fst

/-- Whether a name has a value. -/
def contains (t : Table α) (key : String) : Bool :=
  (find? t key).isSome

-- ======================================================== view by name

@[simp] theorem find?_nil (key : String) : find? ([] : Table α) key = none := rfl

theorem find?_cons (k : String) (v : α) (t : Table α) (key : String) :
    find? ((k, v) :: t) key = if k = key then some v else find? t key := rfl

/-- What is found under a key is an entry with that key. -/
theorem mem_of_find? {t : Table α} {key : String} {value : α} (h : find? t key = some value) :
    (key, value) ∈ t := by
  induction t with
  | nil => cases h
  | cons entry rest ih =>
    obtain ⟨k, v⟩ := entry
    rw [find?_cons] at h
    split at h
    · next hk =>
      cases h
      exact hk ▸ List.mem_cons_self
    · exact List.mem_cons_of_mem _ (ih h)

/-- In a table that is made of a list, the value of a name is that of the first element with it. -/
theorem find?_map {β : Type u} (xs : List β) (name : β → String) (value : β → α) (key : String) :
    find? (xs.map fun x => (name x, value x)) key
      = (xs.find? fun x => name x = key).map value := by
  induction xs with
  | nil => rfl
  | cons x rest ih =>
    rw [List.map_cons, find?_cons, List.find?_cons]
    by_cases h : name x = key <;> simp [h, ih]

/-- Under the key that it was inserted under, a value is found. -/
theorem find?_insert_self (t : Table α) (key : String) (value : α) :
    find? (insert t key value) key = some value := by
  induction t with
  | nil => simp [insert, find?]
  | cons entry rest ih =>
    by_cases h : entry.1 = key <;> simp [insert, find?, h, ih]

theorem find?_insert_of_ne (t : Table α) {key other : String} (value : α) (h : key ≠ other) :
    find? (insert t key value) other = find? t other := by
  induction t with
  | nil => simp [insert, find?, h]
  | cons entry rest ih =>
    obtain ⟨k, v⟩ := entry
    by_cases hk : k = key
    · simp [insert, find?, hk, h]
    · simp [insert, find?_cons, hk, ih]

/-- Insertion overwrites the first entry under the key, in its place. -/
theorem insert_cons (k : String) (v : α) (t : Table α) (key : String) (value : α) :
    insert ((k, v) :: t) key value
      = if k = key then (k, value) :: t else (k, v) :: insert t key value := rfl

/-- Removal goes through all entries, and not only to the first under the key. -/
theorem erase_cons (k : String) (v : α) (t : Table α) (key : String) :
    erase ((k, v) :: t) key = if k = key then erase t key else (k, v) :: erase t key := by
  by_cases h : k = key <;> simp [erase, h]

/-- So nothing is found under a key that was removed. -/
theorem find?_erase_self (t : Table α) (key : String) : find? (erase t key) key = none := by
  induction t with
  | nil => rfl
  | cons entry rest ih =>
    rw [erase_cons]
    split
    · exact ih
    · next hother => rw [find?_cons, if_neg hother, ih]

theorem find?_erase_of_ne (t : Table α) {key other : String} (h : key ≠ other) :
    find? (erase t key) other = find? t other := by
  induction t with
  | nil => rfl
  | cons entry rest ih =>
    obtain ⟨k, v⟩ := entry
    rw [erase_cons, find?_cons]
    split
    · next hk => rw [ih, if_neg (hk ▸ h)]
    · rw [find?_cons, ih]

/-- It makes no difference what was inserted under a key that is removed. -/
theorem erase_insert_self (t : Table α) (key : String) (value : α) :
    erase (insert t key value) key = erase t key := by
  induction t with
  | nil => simp [insert, erase]
  | cons entry rest ih =>
    obtain ⟨k, v⟩ := entry
    rw [insert_cons]
    split
    · next hk => rw [erase_cons, erase_cons, if_pos hk, if_pos hk]
    · next hk => rw [erase_cons, erase_cons, if_neg hk, if_neg hk, ih]

/-- Insertion and removal under different keys can be exchanged. -/
theorem erase_insert_of_ne (t : Table α) {key other : String} (value : α) (h : key ≠ other) :
    erase (insert t key value) other = insert (erase t other) key value := by
  induction t with
  | nil => simp [insert, erase, h]
  | cons entry rest ih =>
    obtain ⟨k, v⟩ := entry
    rw [insert_cons, erase_cons]
    by_cases hk : k = key
    · subst hk
      rw [if_pos rfl, erase_cons, if_neg h, if_neg h, insert_cons, if_pos rfl]
    · rw [if_neg hk, erase_cons, ih]
      by_cases hother : k = other
      · rw [if_pos hother, if_pos hother]
      · rw [if_neg hother, if_neg hother, insert_cons, if_neg hk]

/-- Taking a name out of a table is not giving it in the first place. -/
theorem erase_ofList (entries : List (String × α)) (key : String) :
    erase (ofList entries) key = ofList (entries.filter fun entry => entry.1 ≠ key) := by
  have hfold : ∀ t : Table α,
      erase (entries.foldl (fun t entry => insert t entry.1 entry.2) t) key
        = (entries.filter fun entry => entry.1 ≠ key).foldl
            (fun t entry => insert t entry.1 entry.2) (erase t key) := by
    induction entries with
    | nil => exact fun t => rfl
    | cons entry rest ih =>
      intro t
      rw [List.foldl_cons, ih]
      by_cases h : entry.1 = key
      · simp [h, erase_insert_self]
      · simp [h, erase_insert_of_ne _ _ h]
  exact hfold []

/-- A key under which nothing is found is not there to be removed. -/
theorem erase_eq_self {t : Table α} {key : String} (h : find? t key = none) : erase t key = t := by
  induction t with
  | nil => rfl
  | cons entry rest ih =>
    obtain ⟨k, v⟩ := entry
    rw [find?_cons] at h
    split at h
    · cases h
    · next hk => rw [erase_cons, if_neg hk, ih h]

/-- A name that is given first is first in the table, with the value that it is given last. -/
theorem ofList_cons (key : String) (value : α) (entries : List (String × α)) :
    ofList ((key, value) :: entries)
      = (key, (find? (ofList entries) key).getD value) :: erase (ofList entries) key := by
  have hfold : ∀ t : Table α,
      entries.foldl (fun t entry => insert t entry.1 entry.2)
          ((key, (find? t key).getD value) :: erase t key)
        = (key, (find? (entries.foldl (fun t entry => insert t entry.1 entry.2) t) key).getD value)
          :: erase (entries.foldl (fun t entry => insert t entry.1 entry.2) t) key := by
    induction entries with
    | nil => exact fun t => rfl
    | cons entry rest ih =>
      intro t
      rw [List.foldl_cons, List.foldl_cons, ← ih (insert t entry.1 entry.2), insert_cons]
      by_cases h : key = entry.1
      · rw [if_pos h, ← h, find?_insert_self, erase_insert_self, Option.getD_some]
      · rw [if_neg h, find?_insert_of_ne t entry.2 (Ne.symm h),
          erase_insert_of_ne t entry.2 (Ne.symm h)]
  exact hfold []

/-- The names of a table are those that were given, each where it first came. -/
theorem keys_ofList : ∀ entries : List (String × α),
    keys (ofList entries) = (keys entries).eraseDups
  | [] => rfl
  | (key, value) :: rest => by
      have hrest := keys_ofList (rest.filter fun entry => entry.1 ≠ key)
      have hothers : keys (rest.filter fun entry => entry.1 ≠ key)
          = (keys rest).filter fun other => !other == key := by
        rw [keys, keys, List.filter_map]
        refine congrArg _ (List.filter_congr fun entry _ => ?_)
        exact decide_not
      have hgiven : keys ((key, value) :: rest) = key :: keys rest := rfl
      rw [hgiven, List.eraseDups_cons, ← hothers, ← hrest, ofList_cons, erase_ofList]
      rfl
termination_by entries => entries.length
decreasing_by exact Nat.lt_succ_of_le (List.length_filter_le _ _)

/-- A name that is given last has the value that it is given. -/
theorem find?_ofList_concat (entries : List (String × α)) (key : String) (value : α) :
    find? (ofList (entries ++ [(key, value)])) key = some value := by
  rw [ofList, List.foldl_append]
  exact find?_insert_self _ _ _

/-- A table has values under its names and under no others. -/
theorem find?_eq_none_iff {t : Table α} {key : String} : find? t key = none ↔ key ∉ keys t := by
  induction t with
  | nil => exact iff_of_true rfl List.not_mem_nil
  | cons entry rest ih =>
    obtain ⟨k, v⟩ := entry
    rw [find?_cons, keys, List.map_cons, List.mem_cons, not_or]
    by_cases h : k = key
    · simp [h]
    · rw [if_neg h, ih]
      exact (and_iff_right (Ne.symm h)).symm

/-- A table is made of itself, as long as no name comes twice. -/
theorem ofList_eq_self {t : Table α} (h : (keys t).Nodup) : ofList t = t := by
  induction t with
  | nil => rfl
  | cons entry rest ih =>
    obtain ⟨key, value⟩ := entry
    obtain ⟨hkey, hrest⟩ := List.nodup_cons.1 h
    have hnone : find? rest key = none := find?_eq_none_iff.2 hkey
    rw [ofList_cons, ih hrest, hnone, erase_eq_self hnone, Option.getD_none]

/-- A table has no value under a name that was not given. -/
theorem find?_ofList_eq_none_iff (entries : List (String × α)) (key : String) :
    find? (ofList entries) key = none ↔ find? entries key = none := by
  have hfold : ∀ t : Table α,
      find? (entries.foldl (fun t entry => insert t entry.1 entry.2) t) key = none
        ↔ find? t key = none ∧ find? entries key = none := by
    induction entries with
    | nil => simp
    | cons entry rest ih =>
      obtain ⟨k, v⟩ := entry
      intro t
      rw [List.foldl_cons, ih, find?_cons]
      by_cases h : k = key
      · subst h
        simp [find?_insert_self]
      · rw [find?_insert_of_ne t v h, if_neg h]
  exact (hfold []).trans (and_iff_right rfl)

/-- What is in a table was given. -/
theorem mem_of_mem_ofList {entries : List (String × α)} {entry : String × α}
    (h : entry ∈ ofList entries) : entry ∈ entries := by
  induction entries generalizing entry with
  | nil => cases h
  | cons first rest ih =>
    obtain ⟨key, value⟩ := first
    rw [ofList_cons] at h
    rcases List.mem_cons.1 h with rfl | h
    · cases hlater : find? (ofList rest) key with
      | none => exact List.mem_cons_self
      | some later => exact List.mem_cons_of_mem _ (ih (mem_of_find? hlater))
    · exact List.mem_cons_of_mem _ (ih (List.mem_filter.1 h).1)

/-- Where a name is always given the same value, all that was given is in the table. -/
theorem mem_ofList_iff {entries : List (String × α)}
    (hsame : ∀ one ∈ entries, ∀ other ∈ entries, one.1 = other.1 → one = other)
    {entry : String × α} : entry ∈ ofList entries ↔ entry ∈ entries := by
  refine ⟨mem_of_mem_ofList, fun h => ?_⟩
  obtain ⟨key, value⟩ := entry
  cases hfound : find? (ofList entries) key with
  | none =>
    have hnone := (find?_ofList_eq_none_iff entries key).1 hfound
    exact absurd (List.mem_map_of_mem h) (find?_eq_none_iff.1 hnone)
  | some found =>
    have hmem := mem_of_find? hfound
    rw [hsame _ h _ (mem_of_mem_ofList hmem) rfl]
    exact hmem

/-- A key that is there keeps its place, and a new one comes last. -/
theorem keys_insert (t : Table α) (key : String) (value : α) :
    keys (insert t key value) = if key ∈ keys t then keys t else keys t ++ [key] := by
  induction t with
  | nil => simp [insert, keys]
  | cons entry rest ih =>
    by_cases h : entry.1 = key
    · subst h
      simp [insert, keys]
    · have hne : key ≠ entry.1 := fun e => h e.symm
      simp only [keys] at ih
      by_cases hm : key ∈ rest.map Prod.fst
      · simp_all [insert, keys]
      · simp_all [insert, keys]

/-- No insertion makes a key stand twice. -/
theorem nodup_keys_insert {t : Table α} (h : (keys t).Nodup) (key : String) (value : α) :
    (keys (insert t key value)).Nodup := by
  rw [keys_insert]
  split
  · exact h
  · next hm =>
    rw [List.nodup_append]
    refine ⟨h, by simp, ?_⟩
    intro a ha b hb hab
    simp only [List.mem_singleton] at hb
    exact hm (hb ▸ hab ▸ ha)

/-- No row of insertions makes a key stand twice. -/
theorem nodup_keys_foldl (entries : List (String × α)) {t : Table α} (h : (keys t).Nodup) :
    (keys (entries.foldl (fun t entry => insert t entry.1 entry.2) t)).Nodup := by
  induction entries generalizing t with
  | nil => exact h
  | cons entry rest ih => exact ih (nodup_keys_insert h entry.1 entry.2)

/-- A table that is made of entries has every key once, however often it was given. -/
theorem nodup_keys_ofList (entries : List (String × α)) : (keys (ofList entries)).Nodup :=
  nodup_keys_foldl entries (t := []) (by simp [keys])

/-- In a table without repetitions the value of a name is the one that stands with it. -/
theorem find?_eq_some_iff {t : Table α} (h : (keys t).Nodup) {key : String} {value : α} :
    find? t key = some value ↔ (key, value) ∈ t := by
  refine ⟨mem_of_find?, fun hmem => ?_⟩
  induction t with
  | nil => cases hmem
  | cons entry rest ih =>
    obtain ⟨k, v⟩ := entry
    obtain ⟨hk, hrest⟩ := List.nodup_cons.1 h
    rw [find?_cons]
    rcases List.mem_cons.1 hmem with heq | hmem
    · cases heq
      exact if_pos rfl
    · have hne : k ≠ key := fun heq => hk (List.mem_map.2 ⟨(key, value), hmem, heq.symm⟩)
      rw [if_neg hne, ih hrest hmem]

end Table

/-- Of elements that a function keeps apart, each is the first one with its value. -/
theorem find?_eq_of_nodup {α β : Type} [DecidableEq β] (f : α → β) {xs : List α} {x : α}
    (hdistinct : (xs.map f).Nodup) (hmem : x ∈ xs) :
    xs.find? (fun other => f other = f x) = some x := by
  induction xs with
  | nil => cases hmem
  | cons first rest ih =>
      rw [List.map_cons, List.nodup_cons] at hdistinct
      obtain ⟨hfirst, hrest⟩ := hdistinct
      rcases List.mem_cons.1 hmem with rfl | hmem
      · exact List.find?_cons_of_pos (decide_eq_true rfl)
      · have hne : f first ≠ f x := fun heq => hfirst (heq ▸ List.mem_map_of_mem hmem)
        rw [List.find?_cons_of_neg (by simpa using hne)]
        exact ih hrest hmem

end CrudGraph
