import Mathlib.Data.List.Nodup
import Mathlib.Data.List.Lex

/-!
# Dictionaries in insertion order

A dictionary is the list of its pairs, oldest key first. Assigning to a key that is
there leaves it in its place, and a new key goes last.
-/

namespace EvoBlue.Kernel

namespace Dict

variable {α β : Type} [DecidableEq α]

/-- The keys, oldest first. -/
def keys (d : List (α × β)) : List α := d.map Prod.fst

/-- `d.get(key)`. -/
def get (key : α) : List (α × β) → Option β
  | [] => none
  | pair :: rest => if key = pair.1 then some pair.2 else get key rest

/-- `d[key] = value`. -/
def set (key : α) (value : β) : List (α × β) → List (α × β)
  | [] => [(key, value)]
  | pair :: rest => if pair.1 = key then (key, value) :: rest else pair :: set key value rest

/-- `d.pop(key, None)`. -/
def pop (key : α) (d : List (α × β)) : List (α × β) := d.filter fun pair => pair.1 ≠ key

/-- `dict(pairs)`. -/
def ofPairs (pairs : List (α × β)) : List (α × β) :=
  pairs.foldl (fun d pair => set pair.1 pair.2 d) []

omit [DecidableEq α] in
@[simp] theorem keys_nil : keys ([] : List (α × β)) = [] := rfl

omit [DecidableEq α] in
@[simp] theorem keys_cons (pair : α × β) (d : List (α × β)) :
    keys (pair :: d) = pair.1 :: keys d := rfl

omit [DecidableEq α] in
@[simp] theorem keys_append (d e : List (α × β)) : keys (d ++ e) = keys d ++ keys e :=
  List.map_append

theorem get_cons (key : α) (pair : α × β) (d : List (α × β)) :
    get key (pair :: d) = if key = pair.1 then some pair.2 else get key d := rfl

theorem get_eq_none {key : α} {d : List (α × β)} : get key d = none ↔ key ∉ keys d := by
  induction d with
  | nil => simp [get]
  | cons pair d ih =>
    rw [get_cons, keys_cons, List.mem_cons, not_or, ← ih]
    by_cases same : key = pair.1 <;> simp [same]

theorem get_set_self (key : α) (value : β) (d : List (α × β)) :
    get key (set key value d) = some value := by
  induction d with
  | nil => simp [set, get]
  | cons pair d ih =>
    by_cases same : pair.1 = key
    · simp [set, get, same]
    · rw [set, if_neg same, get_cons, if_neg (Ne.symm same), ih]

theorem get_set_ne {key other : α} (apart : other ≠ key) (value : β) (d : List (α × β)) :
    get other (set key value d) = get other d := by
  induction d with
  | nil => simp [set, get, apart]
  | cons pair d ih =>
    by_cases same : pair.1 = key
    · subst same
      rw [set, if_pos rfl, get_cons, get_cons, if_neg apart, if_neg apart]
    · rw [set, if_neg same, get_cons, get_cons, ih]

/-- A key keeps its place, and a new key goes last. -/
theorem keys_set (key : α) (value : β) (d : List (α × β)) :
    keys (set key value d) = if key ∈ keys d then keys d else keys d ++ [key] := by
  induction d with
  | nil => simp [set]
  | cons pair d ih =>
    by_cases same : pair.1 = key
    · simp [set, same]
    · rw [set, if_neg same, keys_cons, ih]
      by_cases mem : key ∈ keys d
      · simp [mem]
      · simp [mem, Ne.symm same]

theorem nodup_set {d : List (α × β)} (distinct : (keys d).Nodup) (key : α) (value : β) :
    (keys (set key value d)).Nodup := by
  rw [keys_set]
  split
  next => exact distinct
  next absent =>
    apply List.Nodup.append distinct (List.nodup_singleton key)
    simpa using absent

theorem nodup_ofPairs (pairs : List (α × β)) : (keys (ofPairs pairs)).Nodup := by
  have grown : ∀ d : List (α × β), (keys d).Nodup →
      (keys (pairs.foldl (fun d pair => set pair.1 pair.2 d) d)).Nodup := by
    induction pairs with
    | nil => exact fun d distinct => distinct
    | cons pair pairs ih => exact fun d distinct => ih _ (nodup_set distinct pair.1 pair.2)
  exact grown [] List.nodup_nil

theorem set_of_absent {key : α} {d : List (α × β)} (absent : key ∉ keys d) (value : β) :
    set key value d = d ++ [(key, value)] := by
  induction d with
  | nil => rfl
  | cons pair d ih =>
    rw [keys_cons, List.mem_cons, not_or] at absent
    rw [set, if_neg (Ne.symm absent.1), ih absent.2, List.cons_append]

theorem set_set (key : α) (value later : β) (d : List (α × β)) :
    set key later (set key value d) = set key later d := by
  induction d with
  | nil => simp [set]
  | cons pair d ih =>
    by_cases same : pair.1 = key
    · simp [set, same]
    · simp only [set, same, if_false, ih]

theorem set_of_get {key : α} {value : β} {d : List (α × β)} (stored : get key d = some value) :
    set key value d = d := by
  induction d with
  | nil => simp [get] at stored
  | cons pair d ih =>
    rw [get_cons] at stored
    by_cases same : pair.1 = key
    · subst same
      rw [if_pos rfl, Option.some.injEq] at stored
      rw [set, if_pos rfl, ← stored]
    · rw [if_neg (Ne.symm same)] at stored
      rw [set, if_neg same, ih stored]

theorem pop_cons (key : α) (pair : α × β) (d : List (α × β)) :
    pop key (pair :: d) = if pair.1 = key then pop key d else pair :: pop key d := by
  by_cases same : pair.1 = key <;> simp [pop, same]

@[simp] theorem pop_set (key : α) (value : β) (d : List (α × β)) :
    pop key (set key value d) = pop key d := by
  induction d with
  | nil => simp [set, pop]
  | cons pair d ih =>
    by_cases same : pair.1 = key
    · simp [set, pop_cons, same]
    · simp [set, pop_cons, same, ih]

theorem pop_of_absent {key : α} {d : List (α × β)} (absent : key ∉ keys d) : pop key d = d := by
  unfold pop
  rw [List.filter_eq_self]
  intro pair mem
  apply decide_eq_true
  intro same
  exact absent (same ▸ List.mem_map_of_mem mem)

theorem keys_pop (key : α) (d : List (α × β)) :
    keys (pop key d) = (keys d).filter fun name => name ≠ key := by
  unfold keys pop
  rw [List.filter_map]
  rfl

theorem nodup_pop {d : List (α × β)} (distinct : (keys d).Nodup) (key : α) :
    (keys (pop key d)).Nodup := by
  rw [keys_pop]
  exact distinct.filter _

theorem get_pop_self (key : α) (d : List (α × β)) : get key (pop key d) = none := by
  rw [get_eq_none, keys_pop]
  simp

theorem get_pop_ne {key other : α} (apart : other ≠ key) (d : List (α × β)) :
    get other (pop key d) = get other d := by
  induction d with
  | nil => rfl
  | cons pair d ih =>
    rw [pop_cons]
    by_cases same : pair.1 = key
    · subst same
      rw [if_pos rfl, ih, get_cons, if_neg apart]
    · rw [if_neg same, get_cons, get_cons, ih]

theorem mem_of_get {key : α} {value : β} {d : List (α × β)} (stored : get key d = some value) :
    (key, value) ∈ d := by
  induction d with
  | nil => simp [get] at stored
  | cons pair d ih =>
    rw [get_cons] at stored
    split at stored
    next same =>
      rw [same, ← Option.some.inj stored]
      exact List.mem_cons_self
    next => exact List.mem_cons_of_mem _ (ih stored)

theorem get_of_mem {pair : α × β} {d : List (α × β)} (distinct : (keys d).Nodup)
    (mem : pair ∈ d) : get pair.1 d = some pair.2 := by
  induction d with
  | nil => simp at mem
  | cons head d ih =>
    rw [keys_cons, List.nodup_cons] at distinct
    rw [get_cons]
    rcases List.mem_cons.1 mem with rfl | later
    · rw [if_pos rfl]
    · have apart : pair.1 ≠ head.1 := by
        intro same
        exact distinct.1 (same ▸ List.mem_map_of_mem later)
      rw [if_neg apart, ih distinct.2 later]

/-- What is written is found in the dictionary, or is what was written. -/
theorem mem_set {key : α} {value : β} {d : List (α × β)} {pair : α × β}
    (mem : pair ∈ set key value d) : pair = (key, value) ∨ pair ∈ d := by
  induction d with
  | nil => exact .inl (List.mem_singleton.1 mem)
  | cons head d ih =>
    unfold set at mem
    split at mem
    next =>
      rcases List.mem_cons.1 mem with new | old
      · exact .inl new
      · exact .inr (List.mem_cons_of_mem _ old)
    next =>
      rcases List.mem_cons.1 mem with first | later
      · exact .inr (List.mem_cons.2 (.inl first))
      · exact (ih later).imp id (List.mem_cons_of_mem _)

end Dict

end EvoBlue.Kernel
