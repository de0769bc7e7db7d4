/-!
# Dictionaries in key order

A finite map from texts kept as a list of entries in strictly increasing
key order. Texts are ordered by their code points, which is also the order
of their UTF-8 bytes. The order is part of the type, so two dictionaries
with the same look-ups are equal.
-/

namespace ProxySync

/-! ## Entry lists -/

/-- The entry list with `key` bound to `value`, an older binding replaced. -/
def insertEntry {α : Type} (key : String) (value : α) :
    List (String × α) → List (String × α)
  | [] => [(key, value)]
  | e :: rest =>
    if key < e.1 then (key, value) :: e :: rest
    else if key = e.1 then (key, value) :: rest
    else e :: insertEntry key value rest

def InKeyOrder {α : Type} (l : List (String × α)) : Prop :=
  l.Pairwise fun a b => a.1 < b.1

theorem mem_insertEntry {α : Type} {key : String} {value : α} {e : String × α}
    {l : List (String × α)} (h : e ∈ insertEntry key value l) :
    e = (key, value) ∨ e ∈ l := by
  induction l with
  | nil => simpa [insertEntry] using h
  | cons a l ih =>
    rw [insertEntry] at h
    split at h
    · simpa using h
    · split at h
      · rcases List.mem_cons.1 h with h | h
        · exact .inl h
        · exact .inr (List.mem_cons_of_mem _ h)
      · rcases List.mem_cons.1 h with h | h
        · exact .inr (h ▸ List.mem_cons_self)
        · exact (ih h).imp_right (List.mem_cons_of_mem _)

theorem key_lt_of_not_le {a b : String} (h : ¬ a < b) (h' : a ≠ b) : b < a :=
  Decidable.byContradiction fun h'' =>
    h' (String.le_antisymm (String.not_lt.1 h'') (String.not_lt.1 h))

theorem inKeyOrder_insertEntry {α : Type} {key : String} {value : α}
    {l : List (String × α)} (h : InKeyOrder l) : InKeyOrder (insertEntry key value l) := by
  induction l with
  | nil => simp [insertEntry, InKeyOrder]
  | cons a l ih =>
    obtain ⟨ha, hl⟩ := List.pairwise_cons.1 h
    rw [insertEntry]
    split
    case isTrue hlt =>
      refine List.pairwise_cons.2 ⟨fun e he => ?_, h⟩
      rcases List.mem_cons.1 he with rfl | he
      · exact hlt
      · exact String.lt_trans hlt (ha e he)
    case isFalse hlt =>
      split
      case isTrue heq => exact List.pairwise_cons.2 ⟨fun e he => heq ▸ ha e he, hl⟩
      case isFalse hne =>
        refine List.pairwise_cons.2 ⟨fun e he => ?_, ih hl⟩
        rcases mem_insertEntry he with rfl | he
        · exact key_lt_of_not_le hlt hne
        · exact ha e he

theorem lookup_entry_cons {α : Type} (k : String) (e : String × α) (l : List (String × α)) :
    (e :: l).lookup k = if k = e.1 then some e.2 else l.lookup k := by
  obtain ⟨a, v⟩ := e
  by_cases h : k = a
  · simp [h]
  · have : (k == a) = false := by simp [h]
    simp [List.lookup_cons, h, this]

theorem lookup_insertEntry {α : Type} (key : String) (value : α) (l : List (String × α))
    (k : String) :
    (insertEntry key value l).lookup k = if k = key then some value else l.lookup k := by
  induction l with
  | nil => simp [insertEntry, lookup_entry_cons]
  | cons a l ih =>
    rw [insertEntry]
    split
    · simp [lookup_entry_cons]
    · split
      case isTrue heq => by_cases h : k = key <;> simp [lookup_entry_cons, h, ← heq]
      case isFalse hne =>
        by_cases h : k = a.1
        · simp [lookup_entry_cons, h, Ne.symm hne]
        · simp [lookup_entry_cons, h, ih]

theorem lookup_filter_key {α : Type} (key : String) (l : List (String × α)) (k : String) :
    (l.filter (·.1 != key)).lookup k = if k = key then none else l.lookup k := by
  induction l with
  | nil => simp
  | cons a l ih =>
    rw [List.filter_cons, lookup_entry_cons]
    split
    case isTrue ha =>
      rw [lookup_entry_cons, ih]
      by_cases hk : k = a.1
      · simp [hk, bne_iff_ne.1 ha]
      · simp [hk]
    case isFalse ha =>
      rw [ih]
      have ha : a.1 = key := by simpa using ha
      by_cases hk : k = key <;> simp [ha, hk]

/-! ## Dictionaries -/

structure Dict (α : Type) where
  entries : List (String × α)
  inKeyOrder : InKeyOrder entries

namespace Dict

variable {α : Type}

def empty : Dict α := ⟨[], List.Pairwise.nil⟩

instance : EmptyCollection (Dict α) := ⟨empty⟩

instance : Inhabited (Dict α) := ⟨empty⟩

instance [DecidableEq α] : DecidableEq (Dict α) := fun a b =>
  decidable_of_iff (a.entries = b.entries) (by cases a; cases b; simp)

def get? (d : Dict α) (key : String) : Option α := d.entries.lookup key

def insert (d : Dict α) (key : String) (value : α) : Dict α :=
  ⟨insertEntry key value d.entries, inKeyOrder_insertEntry d.inKeyOrder⟩

def erase (d : Dict α) (key : String) : Dict α :=
  ⟨d.entries.filter (·.1 != key), d.inKeyOrder.filter _⟩

/-- The same keys with `f` of their values. -/
def map {β : Type} (f : α → β) (d : Dict α) : Dict β :=
  ⟨d.entries.map fun e => (e.1, f e.2),
    by simpa only [InKeyOrder, List.pairwise_map] using d.inKeyOrder⟩

/-- Later entries win over earlier ones of the same key. -/
def ofList (l : List (String × α)) : Dict α := l.foldl (fun d e => d.insert e.1 e.2) empty

@[simp] theorem get?_empty (key : String) : (empty : Dict α).get? key = none := rfl

theorem get?_insert (d : Dict α) (key : String) (value : α) (k : String) :
    (d.insert key value).get? k = if k = key then some value else d.get? k :=
  lookup_insertEntry key value d.entries k

theorem get?_erase (d : Dict α) (key k : String) :
    (d.erase key).get? k = if k = key then none else d.get? k :=
  lookup_filter_key key d.entries k

end Dict

end ProxySync
