import Mathlib.Data.List.Nodup

/-!
# Lists without a repeated key

A list that repeats no key is as good as a function: what is found under a key is the one item that
has it, and lists of pairs are determined, up to order, by what is looked up in them.

* `find?_of_mem` — an item is found under its key.
* `mem_iff_lookup` — the pairs of a list are those that are looked up.
* `perm_of_lookup` — lists with the same look-ups are permutations of each other.
* `pick` — the pairs under given keys; `perm_pick` — picking them only permutes the list.
-/

set_option autoImplicit false

namespace Welfare

variable {κ α : Type} [DecidableEq κ]

/-- An item is found under its key: none before it has the same key. -/
theorem find?_of_mem {key : α → κ} {xs : List α} {x : α} (h : (xs.map key).Nodup) (hx : x ∈ xs) :
    xs.find? (key · == key x) = some x := by
  cases hfind : xs.find? (key · == key x) with
  | none => exact absurd (beq_self_eq_true (key x)) (List.find?_eq_none.1 hfind x hx)
  | some y =>
    have hkey : key y = key x := by simpa using List.find?_some hfind
    rw [List.inj_on_of_nodup_map h (List.mem_of_find?_eq_some hfind) hx hkey]

variable {ms ns : List (κ × α)}

theorem lookup_cons_eq_ite (m : κ × α) (ms : List (κ × α)) (k : κ) :
    (m :: ms).lookup k = if k = m.1 then some m.2 else ms.lookup k := by
  obtain ⟨l, a⟩ := m
  by_cases hkey : k = l
  · simp [hkey]
  · simp [List.lookup_cons, beq_false_of_ne hkey, hkey]

/-- Without a repeated key, looking up is the same as being there. -/
theorem mem_iff_lookup (h : (ms.map Prod.fst).Nodup) {m : κ × α} :
    m ∈ ms ↔ ms.lookup m.1 = some m.2 := by
  induction ms with
  | nil => exact iff_of_false List.not_mem_nil nofun
  | cons n ms ih =>
    obtain ⟨hn, hms⟩ := List.nodup_cons.1 h
    rw [List.mem_cons, lookup_cons_eq_ite]
    by_cases hkey : m.1 = n.1
    · have hnot : m ∉ ms := fun hm ↦ hn (hkey ▸ List.mem_map_of_mem hm)
      rw [or_iff_left hnot, if_pos hkey, Option.some_inj]
      exact ⟨fun heq ↦ heq ▸ rfl, fun heq ↦ Prod.ext hkey heq.symm⟩
    · have hne : m ≠ n := fun heq ↦ hkey (heq ▸ rfl)
      rw [or_iff_right hne, if_neg hkey, ih hms]

theorem perm_of_lookup (hms : (ms.map Prod.fst).Nodup) (hns : (ns.map Prod.fst).Nodup)
    (h : ∀ k, ms.lookup k = ns.lookup k) : ms.Perm ns := by
  refine (List.perm_ext_iff_of_nodup (.of_map _ hms) (.of_map _ hns)).2 fun m ↦ ?_
  rw [mem_iff_lookup hms, mem_iff_lookup hns, h]

/-- A choice of pairs by their keys leaves the others in place. -/
theorem lookup_filter (p : κ → Bool) (ms : List (κ × α)) (k : κ) :
    (ms.filter (p ·.1)).lookup k = if p k then ms.lookup k else none := by
  induction ms with
  | nil => exact (ite_self _).symm
  | cons m ms ih =>
    rw [List.filter_cons, lookup_cons_eq_ite]
    by_cases hkey : k = m.1
    · subst hkey
      rw [if_pos rfl]
      split
      · rw [lookup_cons_eq_ite, if_pos rfl]
      · next hp => rw [ih, if_neg hp]
    · rw [if_neg hkey, ← ih]
      split
      · rw [lookup_cons_eq_ite, if_neg hkey]
      · rfl

omit [DecidableEq κ] in
theorem nodup_filter (h : (ms.map Prod.fst).Nodup) (p : κ × α → Bool) :
    ((ms.filter p).map Prod.fst).Nodup :=
  (List.filter_sublist.map Prod.fst).nodup h

/-- The pairs under some keys, in the order of the keys. -/
def pick (keys : List κ) (ms : List (κ × α)) : List (κ × α) :=
  keys.filterMap fun k ↦ (ms.lookup k).map (k, ·)

theorem mem_pick {keys : List κ} {m : κ × α} :
    m ∈ pick keys ms ↔ m.1 ∈ keys ∧ ms.lookup m.1 = some m.2 := by
  obtain ⟨k, a⟩ := m
  rw [pick, List.mem_filterMap]
  constructor
  · rintro ⟨l, hl, hm⟩
    obtain ⟨b, hb, heq⟩ := Option.map_eq_some_iff.1 hm
    cases heq
    exact ⟨hl, hb⟩
  · rintro ⟨hk, ha⟩
    exact ⟨k, hk, Option.map_eq_some_iff.2 ⟨a, ha, rfl⟩⟩

theorem nodup_pick {keys : List κ} (h : keys.Nodup) : (pick keys ms).Nodup := by
  refine h.filterMap fun k l m hk hl ↦ ?_
  obtain ⟨a, _, rfl⟩ := Option.map_eq_some_iff.1 hk
  obtain ⟨b, _, heq⟩ := Option.map_eq_some_iff.1 hl
  exact (congrArg Prod.fst heq).symm

/-- Putting the pairs under some keys behind all others only permutes a list. -/
theorem perm_pick {keys : List κ} (hms : (ms.map Prod.fst).Nodup) (hkeys : keys.Nodup) :
    ms.Perm (ms.filter (·.1 ∉ keys) ++ pick keys ms) := by
  have hpick : (ms.filter fun m ↦ !decide (m.1 ∉ keys)).Perm (pick keys ms) := by
    refine (List.perm_ext_iff_of_nodup (.of_map _ (nodup_filter hms _)) (nodup_pick hkeys)).2
      fun m ↦ ?_
    rw [List.mem_filter, mem_pick, ← mem_iff_lookup hms]
    simp only [decide_not, Bool.not_not, decide_eq_true_eq, and_comm]
  exact (List.filter_append_perm _ ms).symm.trans (hpick.append_left _)

end Welfare
