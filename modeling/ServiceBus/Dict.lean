/-
ServiceBus.Dict — finite maps from names to values, kept in the order of
their names.

* `Entries` works on plain association lists; `Value` objects use it
  directly.
* `Dict` adds the invariant that the names increase strictly, so two maps
  that answer every look-up alike are equal (`Dict.ext_get?`).

Names are ordered by code point, which is also the order of their UTF-8
bytes.
-/
namespace ServiceBus

universe u v

namespace Entries

variable {α : Type u} {β : Type v}

/-- The value stored under a name. -/
def get? (k : String) : List (String × α) → Option α
  | [] => none
  | (k', v) :: rest => if k = k' then some v else get? k rest

/-- Stores a value under a name, in its place by name order; a value already
stored under that name is replaced. -/
def insert (k : String) (v : α) : List (String × α) → List (String × α)
  | [] => [(k, v)]
  | (k', v') :: rest =>
    if k = k' then (k, v) :: rest
    else if k < k' then (k, v) :: (k', v') :: rest
    else (k', v') :: insert k v rest

/-- Drops the value stored under a name. -/
def erase (k : String) : List (String × α) → List (String × α)
  | [] => []
  | (k', v') :: rest => if k = k' then rest else (k', v') :: erase k rest

/-- The names increase strictly. -/
def Increasing (es : List (String × α)) : Prop :=
  es.Pairwise (fun a b => a.1 < b.1)

/-- Every name is above `k`. -/
def Above (k : String) (es : List (String × α)) : Prop :=
  ∀ e ∈ es, k < e.1

theorem increasing_nil : Increasing ([] : List (String × α)) := List.Pairwise.nil

theorem increasing_cons {e : String × α} {es : List (String × α)} :
    Increasing (e :: es) ↔ Above e.1 es ∧ Increasing es := by
  simp [Increasing, Above, List.pairwise_cons]

theorem lt_of_not_lt {a b : String} (hne : a ≠ b) (h : ¬ a < b) : b < a := by
  by_cases hb : b < a
  · exact hb
  · exact absurd (String.le_antisymm hb h) hne

theorem above_insert {j k : String} {v : α} {es : List (String × α)}
    (hj : j < k) (h : Above j es) : Above j (insert k v es) := by
  induction es with
  | nil => intro e he; simp [insert] at he; subst he; exact hj
  | cons e rest ih =>
    obtain ⟨k', v'⟩ := e
    have hr : Above j rest := fun x hx => h x (List.mem_cons_of_mem _ hx)
    have hk' : j < k' := h (k', v') (List.mem_cons_self ..)
    unfold insert
    split
    · intro x hx
      rcases List.mem_cons.1 hx with rfl | hx
      · exact hj
      · exact hr x hx
    · split
      · intro x hx
        rcases List.mem_cons.1 hx with rfl | hx
        · exact hj
        · exact h x hx
      · intro x hx
        rcases List.mem_cons.1 hx with rfl | hx
        · exact hk'
        · exact ih hr x hx

theorem Increasing.insert {k : String} {v : α} {es : List (String × α)}
    (h : Increasing es) : Increasing (Entries.insert k v es) := by
  induction es with
  | nil => simp [Entries.insert, Increasing]
  | cons e rest ih =>
    obtain ⟨k', v'⟩ := e
    obtain ⟨ha, hr⟩ := increasing_cons.1 h
    unfold Entries.insert
    split
    · rename_i hk; subst hk; exact increasing_cons.2 ⟨ha, hr⟩
    · split
      · rename_i hlt
        refine increasing_cons.2 ⟨?_, h⟩
        intro x hx
        rcases List.mem_cons.1 hx with rfl | hx
        · exact hlt
        · exact String.lt_trans hlt (ha x hx)
      · rename_i hne hnl
        exact increasing_cons.2 ⟨above_insert (lt_of_not_lt hne hnl) ha, ih hr⟩

theorem above_erase {j k : String} {es : List (String × α)}
    (h : Above j es) : Above j (erase k es) := by
  induction es with
  | nil => exact h
  | cons e rest ih =>
    obtain ⟨k', v'⟩ := e
    have hr : Above j rest := fun x hx => h x (List.mem_cons_of_mem _ hx)
    unfold erase
    split
    · exact hr
    · intro x hx
      rcases List.mem_cons.1 hx with rfl | hx
      · exact h _ (List.mem_cons_self ..)
      · exact ih hr x hx

theorem Increasing.erase {k : String} {es : List (String × α)}
    (h : Increasing es) : Increasing (Entries.erase k es) := by
  induction es with
  | nil => exact h
  | cons e rest ih =>
    obtain ⟨k', v'⟩ := e
    obtain ⟨ha, hr⟩ := increasing_cons.1 h
    unfold Entries.erase
    split
    · exact hr
    · exact increasing_cons.2 ⟨above_erase ha, ih hr⟩

theorem get?_insert (j k : String) (v : α) (es : List (String × α)) :
    get? j (insert k v es) = if j = k then some v else get? j es := by
  induction es with
  | nil => simp [insert, get?]
  | cons e rest ih =>
    obtain ⟨k', v'⟩ := e
    unfold insert
    split
    · rename_i hk; subst hk; by_cases hj : j = k <;> simp [get?, hj]
    · split
      · simp [get?]
      · rename_i hne _
        simp only [get?, ih]
        by_cases hj : j = k'
        · subst hj; simp [Ne.symm hne]
        · simp [hj]

theorem get?_eq_none_of_above {k : String} {es : List (String × α)}
    (h : Above k es) : get? k es = none := by
  induction es with
  | nil => rfl
  | cons e rest ih =>
    obtain ⟨k', v'⟩ := e
    have hk : k < k' := h (k', v') (List.mem_cons_self ..)
    have hne : k ≠ k' := fun heq => String.lt_irrefl k' (heq ▸ hk)
    simp [get?, hne, ih (fun x hx => h x (List.mem_cons_of_mem _ hx))]

theorem get?_eq_some {k : String} {v : α} {es : List (String × α)} (h : Increasing es) :
    get? k es = some v ↔ (k, v) ∈ es := by
  induction es with
  | nil => simp [get?]
  | cons e rest ih =>
    obtain ⟨k', v'⟩ := e
    obtain ⟨ha, hr⟩ := increasing_cons.1 h
    by_cases hk : k = k'
    · subst hk
      have hrest : (k, v) ∉ rest := fun hmem => String.lt_irrefl k (ha (k, v) hmem)
      simp [get?, hrest, eq_comm]
    · simp [get?, hk, ih hr]

theorem get?_erase {j k : String} {es : List (String × α)} (h : Increasing es) :
    get? j (erase k es) = if j = k then none else get? j es := by
  induction es with
  | nil => simp [erase, get?]
  | cons e rest ih =>
    obtain ⟨k', v'⟩ := e
    obtain ⟨ha, hr⟩ := increasing_cons.1 h
    unfold erase
    split
    · rename_i hk; subst hk
      by_cases hj : j = k
      · subst hj; simp [get?_eq_none_of_above ha]
      · simp [get?, hj]
    · rename_i hne
      simp only [get?, ih hr]
      by_cases hj : j = k'
      · subst hj; simp [Ne.symm hne]
      · simp [hj]

/-- Lists with increasing names that answer every look-up alike are equal. -/
theorem ext_get? {es fs : List (String × α)} (he : Increasing es) (hf : Increasing fs)
    (h : ∀ k, get? k es = get? k fs) : es = fs := by
  induction es generalizing fs with
  | nil =>
    cases fs with
    | nil => rfl
    | cons f rest => have := h f.1; simp [get?] at this
  | cons e rest ih =>
    obtain ⟨k, v⟩ := e
    obtain ⟨hae, hre⟩ := increasing_cons.1 he
    cases fs with
    | nil => have := h k; simp [get?] at this
    | cons f rest' =>
      obtain ⟨k', v'⟩ := f
      obtain ⟨haf, hrf⟩ := increasing_cons.1 hf
      have hkk : k = k' := by
        by_cases hlt : k < k'
        · have hk := h k
          have hab : Above k ((k', v') :: rest') := by
            intro x hx
            rcases List.mem_cons.1 hx with rfl | hx
            · exact hlt
            · exact String.lt_trans hlt (haf x hx)
          rw [get?_eq_none_of_above hab] at hk
          simp [get?] at hk
        · by_cases hgt : k' < k
          · have hk := h k'
            have hab : Above k' ((k, v) :: rest) := by
              intro x hx
              rcases List.mem_cons.1 hx with rfl | hx
              · exact hgt
              · exact String.lt_trans hgt (hae x hx)
            rw [get?_eq_none_of_above hab] at hk
            simp [get?] at hk
          · exact String.le_antisymm hgt hlt
      subst hkk
      have hv : v = v' := by have := h k; simpa [get?] using this
      subst hv
      have hrest : rest = rest' := by
        apply ih hre hrf
        intro j
        by_cases hj : j = k
        · subst hj; rw [get?_eq_none_of_above hae, get?_eq_none_of_above haf]
        · have := h j; simpa [get?, hj] using this
      rw [hrest]

theorem increasing_map {f : α → β} {es : List (String × α)} (h : Increasing es) :
    Increasing (es.map fun e => (e.1, f e.2)) := by
  simpa [Increasing, List.pairwise_map] using h

end Entries

/-- A finite map whose entries stand in strictly increasing order of their
names. -/
structure Dict (α : Type u) where
  entries : List (String × α)
  increasing : Entries.Increasing entries

namespace Dict

variable {α : Type u} {β : Type v}

/-- The map without entries. -/
def empty : Dict α := ⟨[], Entries.increasing_nil⟩

instance : EmptyCollection (Dict α) := ⟨empty⟩

instance : Inhabited (Dict α) := ⟨empty⟩

instance [BEq α] : BEq (Dict α) := ⟨fun a b => a.entries == b.entries⟩

/-- The value stored under a name. -/
def get? (d : Dict α) (k : String) : Option α := Entries.get? k d.entries

/-- Whether a value is stored under a name. -/
def contains (d : Dict α) (k : String) : Bool := (d.get? k).isSome

/-- Stores a value under a name, in place of the value stored there. -/
def insert (d : Dict α) (k : String) (v : α) : Dict α :=
  ⟨Entries.insert k v d.entries, d.increasing.insert⟩

/-- Drops the value stored under a name. -/
def erase (d : Dict α) (k : String) : Dict α :=
  ⟨Entries.erase k d.entries, d.increasing.erase⟩

/-- Changes the value stored under a name, if there is one. -/
def modify (d : Dict α) (k : String) (f : α → α) : Dict α :=
  match d.get? k with
  | some v => d.insert k (f v)
  | none => d

/-- Drops the values stored under each of the names. -/
def eraseAll (d : Dict α) (ks : List String) : Dict α := ks.foldl erase d

/-- Stores the pairs in order, so that of two pairs of one name the later
counts. -/
def ofList (es : List (String × α)) : Dict α :=
  es.foldl (fun d e => d.insert e.1 e.2) empty

/-- The entries in the order of their names. -/
def toList (d : Dict α) : List (String × α) := d.entries

/-- The names in increasing order. -/
def keys (d : Dict α) : List String := d.entries.map Prod.fst

/-- The number of entries. -/
def size (d : Dict α) : Nat := d.entries.length

/-- Whether there is no entry. -/
def isEmpty (d : Dict α) : Bool := d.entries.isEmpty

/-- Applies a function to every value. -/
def map (f : α → β) (d : Dict α) : Dict β :=
  ⟨d.entries.map fun e => (e.1, f e.2), Entries.increasing_map d.increasing⟩

@[simp] theorem get?_empty (k : String) : (∅ : Dict α).get? k = none := rfl

@[simp] theorem get?_insert (d : Dict α) (j k : String) (v : α) :
    (d.insert k v).get? j = if j = k then some v else d.get? j :=
  Entries.get?_insert j k v d.entries

@[simp] theorem get?_erase (d : Dict α) (j k : String) :
    (d.erase k).get? j = if j = k then none else d.get? j :=
  Entries.get?_erase d.increasing

/-- Maps that answer every look-up alike are equal. -/
theorem ext_get? {d e : Dict α} (h : ∀ k, d.get? k = e.get? k) : d = e := by
  obtain ⟨es, he⟩ := d
  obtain ⟨fs, hf⟩ := e
  obtain rfl : es = fs := Entries.ext_get? he hf h
  rfl

theorem mem_toList {d : Dict α} {k : String} {v : α} :
    (k, v) ∈ d.toList ↔ d.get? k = some v := (Entries.get?_eq_some d.increasing).symm

/-- Storing a value changes nothing exactly if it is there under this name. -/
theorem insert_eq_self_iff {d : Dict α} {k : String} {v : α} :
    d.insert k v = d ↔ d.get? k = some v := by
  constructor
  · intro h
    rw [← h, get?_insert, if_pos rfl]
  · intro h
    refine ext_get? fun other => ?_
    rw [get?_insert]
    split
    · next hsame => rw [hsame, h]
    · rfl

@[simp] theorem get?_eraseAll (d : Dict α) (ks : List String) (j : String) :
    (d.eraseAll ks).get? j = if j ∈ ks then none else d.get? j := by
  induction ks generalizing d with
  | nil => simp [eraseAll]
  | cons k rest ih =>
    have : d.eraseAll (k :: rest) = (d.erase k).eraseAll rest := rfl
    rw [this, ih, get?_erase]
    by_cases h : j ∈ rest <;> by_cases hk : j = k <;> simp [h, hk]

@[simp] theorem get?_modify (d : Dict α) (j k : String) (f : α → α) :
    (d.modify k f).get? j = if j = k then (d.get? j).map f else d.get? j := by
  unfold modify
  cases hk : d.get? k with
  | none =>
    by_cases h : j = k
    · simp [h, hk]
    · simp [h]
  | some v =>
    rw [get?_insert]
    by_cases h : j = k
    · simp [h, hk]
    · simp [h]

/-- Storing the entries of a map one after the other gives the map. -/
theorem ofList_entries (d : Dict α) : ofList d.entries = d := by
  have stored (es : List (String × α)) (hes : Entries.Increasing es) (start : Dict α)
      (k : String) : (es.foldl (fun d e => d.insert e.1 e.2) start).get? k =
        (Entries.get? k es).or (start.get? k) := by
    induction es generalizing start with
    | nil => rfl
    | cons e rest ih =>
      obtain ⟨name, v⟩ := e
      obtain ⟨habove, hrest⟩ := Entries.increasing_cons.1 hes
      rw [List.foldl_cons, ih hrest, get?_insert, Entries.get?]
      by_cases hk : k = name
      · subst hk
        simp [Entries.get?_eq_none_of_above habove]
      · simp [hk]
  refine ext_get? fun k => ?_
  rw [ofList, stored d.entries d.increasing]
  exact Option.or_none

end Dict

end ServiceBus
