import Mathlib.Data.List.Sort
import Mathlib.Data.String.Basic

/-!
# `std::map` and `std::set` as sorted lists

`internal::Call` keeps its registry in ordered containers: `std::map<uint32_t, T*>` for
the SSRC indices, `std::map<std::string, AudioReceiveStream*>` for the sync groups and
`std::set<T*>` for the stream sets. Their iteration order is observable in `call.cc`:
`ConfigureSync` elects the first audio stream of a group in key order and binds the
first video stream of the group in pointer order. A container is therefore modelled by
the list its iteration visits, carried together with its sortedness (`StdMap.sorted`),
so that no ill-formed map can be built.

The operations are the ones `call.cc` uses: `find`, `operator[]` assignment (`insert`),
`erase` of a key, and the `erase(it++)` loop that removes every entry holding a given
value (`eraseValue`). Every lemma about them is stated through `find`, and two maps
with the same `find` are equal (`StdMap.ext_find`), which is what the round-trip laws
are proved with.

A `std::set<κ>` is a `StdMap κ Unit` (`StdSet`).
-/

namespace WebRtcCall

/-- `uint32_t` compared as an unsigned number, the order `std::map<uint32_t, …>` uses. -/
instance instLinearOrderUInt32 : LinearOrder UInt32 where
  le := (· ≤ ·)
  lt := (· < ·)
  le_refl a := Nat.le_refl a.toNat
  le_trans _ _ _ := Nat.le_trans
  lt_iff_le_not_le _ _ := Nat.lt_iff_le_not_le
  le_antisymm _ _ h₁ h₂ := UInt32.eq_of_val_eq (Fin.ext (Nat.le_antisymm h₁ h₂))
  le_total _ _ := Nat.le_total _ _
  decidableLE := inferInstance
  decidableLT := inferInstance
  decidableEq := inferInstance

/-- A `std::map<κ, α>`: the entries in iteration order, keys strictly increasing. -/
structure StdMap (κ α : Type) [LinearOrder κ] where
  entries : List (κ × α)
  sorted : entries.Sorted (·.1 < ·.1)

namespace StdMap

variable {κ α : Type} [LinearOrder κ]

/-- The empty map. -/
def empty : StdMap κ α := ⟨[], List.sorted_nil⟩

instance : EmptyCollection (StdMap κ α) := ⟨empty⟩

/-- `m.find(k)`: the value stored at key `k`. -/
def find (m : StdMap κ α) (k : κ) : Option α := m.entries.lookup k

/-- The keys in iteration order. -/
def keys (m : StdMap κ α) : List κ := m.entries.map Prod.fst

/-- The values in iteration order. -/
def values (m : StdMap κ α) : List α := m.entries.map Prod.snd

/-- Sorted insertion of `(k, v)`, replacing the entry at `k` if there is one. -/
def insertEntry (k : κ) (v : α) : List (κ × α) → List (κ × α)
  | [] => [(k, v)]
  | e :: es =>
    if k < e.1 then (k, v) :: e :: es
    else if k = e.1 then (k, v) :: es
    else e :: insertEntry k v es

theorem mem_keys_insertEntry {k x : κ} {v : α} :
    ∀ {l : List (κ × α)}, x ∈ (insertEntry k v l).map Prod.fst → x = k ∨ x ∈ l.map Prod.fst
  | [], h => by simpa [insertEntry] using h
  | e :: es, h => by
    simp only [insertEntry] at h
    -- inserted before `e`, in `e`'s place, or further on
    split_ifs at h <;> simp only [List.map_cons, List.mem_cons] at h ⊢
    · exact h.elim .inl .inr
    · rcases h with h | h <;> simp_all
    · rcases h with h | h
      · exact .inr (.inl h)
      · exact (mem_keys_insertEntry h).imp_right .inr

theorem insertEntry_sorted {k : κ} {v : α} :
    ∀ {l : List (κ × α)}, l.Sorted (·.1 < ·.1) → (insertEntry k v l).Sorted (·.1 < ·.1)
  | [], _ => List.sorted_singleton _
  | e :: es, h => by
    rw [List.sorted_cons] at h
    simp only [insertEntry]
    split_ifs with hlt heq
    · -- `k` goes first, below `e` and so below the rest
      exact List.sorted_cons.2 ⟨fun b hb => by
        rcases List.mem_cons.1 hb with rfl | hb
        · exact hlt
        · exact hlt.trans (h.1 b hb), List.sorted_cons.2 h⟩
    · -- `k` replaces `e` at the same key
      exact List.sorted_cons.2 ⟨fun b hb => heq ▸ h.1 b hb, h.2⟩
    · -- `e` stays first, below `k` and below the rest
      refine List.sorted_cons.2 ⟨fun b hb => ?_, insertEntry_sorted h.2⟩
      rcases mem_keys_insertEntry (List.mem_map_of_mem Prod.fst hb) with hb | hb
      · rw [hb]; exact lt_of_le_of_ne (not_lt.1 hlt) (Ne.symm heq)
      · obtain ⟨e', he', hb⟩ := List.mem_map.1 hb
        rw [← hb]; exact h.1 e' he'

/-- `m[k] = v`. -/
def insert (m : StdMap κ α) (k : κ) (v : α) : StdMap κ α :=
  ⟨insertEntry k v m.entries, insertEntry_sorted m.sorted⟩

/-- `m.erase(k)`. -/
def erase (m : StdMap κ α) (k : κ) : StdMap κ α :=
  ⟨m.entries.filter (·.1 ≠ k), m.sorted.filter _⟩

/-- The loop `while (it != end()) if (it->second == v) erase(it++); else ++it;`, which
removes every entry holding `v`. -/
def eraseValue [DecidableEq α] (m : StdMap κ α) (v : α) : StdMap κ α :=
  ⟨m.entries.filter (·.2 ≠ v), m.sorted.filter _⟩

/-- Apply `f` to the value at `k`, if there is one (a call through the stored pointer
that changes the object it points at). -/
def modify (m : StdMap κ α) (k : κ) (f : α → α) : StdMap κ α :=
  ⟨m.entries.map (fun e => if e.1 = k then (e.1, f e.2) else e), by
    refine List.pairwise_map.2 (m.sorted.imp ?_)
    intro a b h
    split_ifs <;> exact h⟩

/-! ### `find` after each operation -/

theorem lookup_cons (e : κ × α) (es : List (κ × α)) (k : κ) :
    (e :: es).lookup k = if k = e.1 then some e.2 else es.lookup k := by
  rcases e with ⟨a, b⟩
  rw [List.lookup_cons]
  by_cases h : k = a
  · subst h; simp
  · rw [if_neg h, show (k == a) = false by simpa using h]

@[simp] theorem find_empty (k : κ) : (∅ : StdMap κ α).find k = none := rfl

/-- `m.empty()`: a map is empty iff it finds no key. -/
theorem entries_eq_nil_iff (m : StdMap κ α) : m.entries = [] ↔ ∀ k, m.find k = none := by
  refine ⟨fun h k => by simp [find, h], fun h => ?_⟩
  cases he : m.entries with
  | nil => rfl
  | cons e es =>
    have := h e.1
    rw [find, he, lookup_cons, if_pos rfl] at this
    cases this

theorem lookup_insertEntry (k k' : κ) (v : α) :
    ∀ l : List (κ × α), (insertEntry k v l).lookup k' = if k' = k then some v else l.lookup k'
  | [] => by simp [insertEntry, lookup_cons]
  | e :: es => by
    simp only [insertEntry]
    split_ifs with h₁ h₂ <;> simp only [lookup_cons, lookup_insertEntry k k' v es] <;>
      split_ifs <;> simp_all

@[simp] theorem find_insert (m : StdMap κ α) (k k' : κ) (v : α) :
    (m.insert k v).find k' = if k' = k then some v else m.find k' :=
  lookup_insertEntry k k' v m.entries

theorem lookup_filter_key (k k' : κ) :
    ∀ l : List (κ × α), (l.filter (·.1 ≠ k)).lookup k' = if k' = k then none else l.lookup k'
  | [] => by simp
  | e :: es => by
    have ih := lookup_filter_key k k' es
    by_cases h : e.1 = k
    · -- `e` is the erased entry
      rw [List.filter_cons_of_neg (by simpa using h), ih, lookup_cons, ← h]
      by_cases hk : k' = e.1 <;> simp [hk]
    · -- `e` stays
      rw [List.filter_cons_of_pos (by simpa using h), lookup_cons, lookup_cons, ih]
      by_cases hk : k' = k
      · simp [hk, Ne.symm h]
      · simp [hk]

@[simp] theorem find_erase (m : StdMap κ α) (k k' : κ) :
    (m.erase k).find k' = if k' = k then none else m.find k' :=
  lookup_filter_key k k' m.entries

/-- In a sorted entry list, an entry is exactly what `lookup` returns at its key. -/
theorem mem_iff_lookup {k : κ} {v : α} :
    ∀ {l : List (κ × α)}, l.Sorted (·.1 < ·.1) → ((k, v) ∈ l ↔ l.lookup k = some v)
  | [], _ => by simp
  | e :: es, h => by
    rw [List.sorted_cons] at h
    obtain ⟨k₀, v₀⟩ := e
    by_cases hk : k = k₀
    · -- the first entry has the key, and sortedness keeps it out of the rest
      subst hk
      have : (k, v) ∉ es := fun hm => lt_irrefl _ (h.1 (k, v) hm)
      simp [lookup_cons, this, eq_comm]
    · simp [lookup_cons, hk, mem_iff_lookup h.2]

/-- Inserting the entries of a sorted list one by one: at a key of the list its value,
elsewhere the map's. -/
theorem find_foldl_insert (k : κ) :
    ∀ (l : List (κ × α)) (m : StdMap κ α), l.Sorted (·.1 < ·.1) →
      (l.foldl (fun m e => m.insert e.1 e.2) m).find k = (l.lookup k).or (m.find k)
  | [], _, _ => rfl
  | e :: es, m, h => by
    rw [List.sorted_cons] at h
    rw [List.foldl_cons, find_foldl_insert k es _ h.2, find_insert, lookup_cons]
    by_cases hk : k = e.1
    · -- the later entries have greater keys, so the inserted value stays
      have hnone : es.lookup k = none := by
        cases hl : es.lookup k with
        | none => rfl
        | some v => exact absurd (h.1 _ ((mem_iff_lookup h.2).2 hl)) (by simp [hk])
      rw [if_pos hk, if_pos hk, hnone]
      rfl
    · rw [if_neg hk, if_neg hk]

theorem mem_entries_iff (m : StdMap κ α) {k : κ} {v : α} :
    (k, v) ∈ m.entries ↔ m.find k = some v :=
  mem_iff_lookup m.sorted

theorem mem_values_iff (m : StdMap κ α) {v : α} : v ∈ m.values ↔ ∃ k, m.find k = some v := by
  simp [values, ← mem_entries_iff]

theorem mem_keys_iff (m : StdMap κ α) {k : κ} : k ∈ m.keys ↔ (m.find k).isSome := by
  simp [keys, Option.isSome_iff_exists, ← mem_entries_iff]

@[simp] theorem find_eraseValue [DecidableEq α] (m : StdMap κ α) (v : α) (k : κ) :
    (m.eraseValue v).find k = (m.find k).filter (· ≠ v) :=
  Option.ext fun w => by
    simp only [Option.mem_def, Option.filter_eq_some, ← mem_entries_iff]
    simp [eraseValue, and_comm]

theorem lookup_map_modify (k k' : κ) (f : α → α) : ∀ l : List (κ × α),
    (l.map (fun e => if e.1 = k then (e.1, f e.2) else e)).lookup k' =
      if k' = k then (l.lookup k').map f else l.lookup k'
  | [] => by simp
  | e :: es => by
    simp only [List.map_cons, lookup_cons, lookup_map_modify k k' f es]
    split_ifs <;> simp_all

@[simp] theorem find_modify (m : StdMap κ α) (k k' : κ) (f : α → α) :
    (m.modify k f).find k' = if k' = k then (m.find k').map f else m.find k' :=
  lookup_map_modify k k' f m.entries

@[simp] theorem find_modify_insert (m : StdMap κ α) (k k' : κ) (v : α) (f : α → α) :
    ((m.insert k v).modify k f).find k' = if k' = k then some (f v) else m.find k' := by
  simp only [find_modify, find_insert]
  split_ifs <;> simp_all

/-! ### Fields of the stored values -/

/-- The field `π` of the value at `k`: `m.find(k)->π`. -/
def project {β : Type} (m : StdMap κ α) (π : α → β) (k : κ) : Option β := (m.find k).map π

section Project

variable {β : Type} (m : StdMap κ α) (π : α → β) (k k' : κ)

@[simp] theorem project_empty : (∅ : StdMap κ α).project π k = none := rfl

@[simp] theorem project_insert (v : α) :
    (m.insert k v).project π k' = if k' = k then some (π v) else m.project π k' := by
  simp only [project, find_insert]; split_ifs <;> rfl

@[simp] theorem project_erase :
    (m.erase k).project π k' = if k' = k then none else m.project π k' := by
  simp only [project, find_erase]; split_ifs <;> rfl

/-- A field that `f` preserves is preserved by `modify`. -/
@[simp] theorem project_modify {f : α → α} (hπ : ∀ a, π (f a) = π a) :
    (m.modify k f).project π k' = m.project π k' := by
  simp only [project, find_modify]
  split_ifs <;> simp [Option.map_map, Function.comp_def, hπ]

@[simp] theorem isSome_project : (m.project π k).isSome = (m.find k).isSome := by
  simp [project]

theorem project_eq_some {b : β} : m.project π k = some b ↔ ∃ a, m.find k = some a ∧ π a = b := by
  simp [project]

theorem isSome_find_of_project {m : StdMap κ α} {π : α → β} {k : κ} {b : β}
    (h : m.project π k = some b) : (m.find k).isSome := by
  rw [← isSome_project m π, h]; rfl

theorem project_of_find {m : StdMap κ α} {π : α → β} {k : κ} {a : α} (h : m.find k = some a) :
    m.project π k = some (π a) := by
  simp [project, h]

end Project

@[simp] theorem isSome_find_modify (m : StdMap κ α) (k k' : κ) (f : α → α) :
    ((m.modify k f).find k').isSome = (m.find k').isSome := by
  rw [find_modify]; split_ifs <;> simp

/-! ### Extensionality -/

theorem ext_entries {m m' : StdMap κ α} (h : m.entries = m'.entries) : m = m' := by
  cases m; cases m'; cases h; rfl

/-- Two maps with the same lookups are the same map: a sorted entry list is determined
by its entries, and the entries of a map by `find`. -/
theorem ext_find {m m' : StdMap κ α} (h : ∀ k, m.find k = m'.find k) : m = m' := by
  haveI : IsAntisymm (κ × α) (·.1 < ·.1) := ⟨fun _ _ h₁ h₂ => absurd (h₁.trans h₂) (lt_irrefl _)⟩
  have nodup : ∀ m : StdMap κ α, m.entries.Nodup := fun m =>
    m.sorted.imp fun h he => by rw [he] at h; exact lt_irrefl _ h
  refine ext_entries (List.eq_of_perm_of_sorted ?_ m.sorted m'.sorted)
  refine (List.perm_ext_iff_of_nodup (nodup m) (nodup m')).2 fun ⟨k, v⟩ => ?_
  rw [mem_entries_iff, mem_entries_iff, h]

/-! ### Undoing an update -/

theorem insert_of_find_eq {m : StdMap κ α} {k : κ} {v : α} (h : m.find k = some v) :
    m.insert k v = m :=
  ext_find fun k' => by by_cases hk : k' = k <;> simp [hk, h]

theorem erase_insert_of_find_none {m : StdMap κ α} {k : κ} {v : α} (h : m.find k = none) :
    (m.insert k v).erase k = m :=
  ext_find fun k' => by by_cases hk : k' = k <;> simp [hk, h]

theorem eraseValue_of_not_mem [DecidableEq α] {m : StdMap κ α} {v : α} (h : v ∉ m.values) :
    m.eraseValue v = m :=
  ext_find fun k => by
    have : m.find k ≠ some v := fun hk => h ((mem_values_iff m).2 ⟨k, hk⟩)
    cases hk : m.find k <;> simp_all

end StdMap

/-- A `std::set<κ>`: a map to `Unit`, whose keys are the elements in iteration order. -/
def StdSet (κ : Type) [LinearOrder κ] := StdMap κ Unit

namespace StdSet

variable {κ : Type} [LinearOrder κ]

instance : EmptyCollection (StdSet κ) := ⟨StdMap.empty⟩

/-- The elements in iteration order. -/
def elems (s : StdSet κ) : List κ := StdMap.keys s

/-- `s.insert(a)`. -/
def insert (s : StdSet κ) (a : κ) : StdSet κ := StdMap.insert s a ()

/-- `s.erase(a)`. -/
def erase (s : StdSet κ) (a : κ) : StdSet κ := StdMap.erase s a

instance : Membership κ (StdSet κ) := ⟨fun s a => a ∈ s.elems⟩

theorem mem_iff (s : StdSet κ) (a : κ) : a ∈ s ↔ a ∈ s.elems := Iff.rfl

instance (s : StdSet κ) (a : κ) : Decidable (a ∈ s) := inferInstanceAs (Decidable (a ∈ s.elems))

theorem mem_iff_find (s : StdSet κ) (a : κ) : a ∈ s ↔ StdMap.find s a = some () := by
  rw [mem_iff, elems, StdMap.mem_keys_iff, Option.isSome_iff_exists]
  exact ⟨fun ⟨_, h⟩ => h, fun h => ⟨_, h⟩⟩

/-- `s.empty()`: a set is empty iff it has no element. -/
theorem elems_eq_nil_iff (s : StdSet κ) : s.elems = [] ↔ ∀ a, a ∉ s := by
  simp only [elems, StdMap.keys, List.map_eq_nil_iff, StdMap.entries_eq_nil_iff, mem_iff_find]
  exact forall_congr' fun a => by cases StdMap.find s a <;> simp

@[simp] theorem not_mem_empty (a : κ) : a ∉ (∅ : StdSet κ) :=
  List.not_mem_nil a

@[simp] theorem mem_insert (s : StdSet κ) (a b : κ) : b ∈ s.insert a ↔ b = a ∨ b ∈ s := by
  simp only [mem_iff_find, insert, StdMap.find_insert]
  split_ifs <;> simp_all

@[simp] theorem mem_erase (s : StdSet κ) (a b : κ) : b ∈ s.erase a ↔ b ≠ a ∧ b ∈ s := by
  simp only [mem_iff_find, erase, StdMap.find_erase]
  split_ifs <;> simp_all

theorem sorted_elems (s : StdSet κ) : s.elems.Sorted (· < ·) :=
  List.pairwise_map.2 (StdMap.sorted s)

theorem ext_mem {s s' : StdSet κ} (h : ∀ a, a ∈ s ↔ a ∈ s') : s = s' :=
  StdMap.ext_find fun a => by
    have := h a
    rw [mem_iff_find, mem_iff_find] at this
    cases h₁ : StdMap.find s a <;> cases h₂ : StdMap.find s' a <;> simp_all

theorem erase_insert_of_not_mem {s : StdSet κ} {a : κ} (h : a ∉ s) : (s.insert a).erase a = s :=
  ext_mem fun b => by by_cases hb : b = a <;> simp [hb, h]

/-- A set and a map with the same members are iterated in the same order. -/
theorem elems_eq_keys {α : Type} {s : StdSet κ} {m : StdMap κ α}
    (h : ∀ a, a ∈ s ↔ (m.find a).isSome) : s.elems = m.keys := by
  have hm : m.keys.Sorted (· < ·) := List.pairwise_map.2 m.sorted
  refine List.eq_of_perm_of_sorted ((List.perm_ext_iff_of_nodup s.sorted_elems.nodup hm.nodup).2
    fun a => ?_) s.sorted_elems hm
  rw [← mem_iff, h, StdMap.mem_keys_iff]

end StdSet

end WebRtcCall
