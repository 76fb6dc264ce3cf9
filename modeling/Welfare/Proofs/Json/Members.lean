import Welfare.Proofs.Json.Text
import Welfare.Proofs.Keyed

/-!
# The members of an object

An object whose keys are not repeated is a function from keys to values.  It is described here by
what is looked up in it, in whatever order its members stand.

* `Json.members` — the members of a value.
* `Json.others` — the members under other keys than some, in order of key; `others_congr` — they are
  determined by what is looked up under other keys.
* `Json.put` — an object with a member put in its place.
-/

set_option autoImplicit false

namespace Welfare.Json

variable {v w : Json} {key : String} {names : List String}

/-- The members of an object; anything else has none. -/
def members : Json → List Member
  | .obj ms => ms
  | _ => []

theorem exists_of_isObject (h : v.isObject = true) : ∃ ms, v = .obj ms := by
  cases v with
  | obj ms => exact ⟨ms, rfl⟩
  | _ => cases h

theorem get?_eq_lookup (v : Json) (key : String) : v.get? key = v.members.lookup key := by
  cases v <;> rfl

theorem DistinctKeys.members (h : v.DistinctKeys) : DistinctKeys (.obj v.members) := by
  cases v with
  | obj ms => exact h
  | _ => exact ⟨List.nodup_nil, trivial⟩

/-- A member repeats no key when the object around it does not. -/
theorem DistinctKeys.get? (h : v.DistinctKeys) (hw : v.get? key = some w) : w.DistinctKeys := by
  cases v with
  | obj ms => exact distinctMembers_iff.1 h.2 (key, w) ((mem_iff_lookup h.1).2 hw)
  | _ => cases hw

/-- An item repeats no key when the list around it does not. -/
theorem DistinctKeys.of_mem {xs : List Json} (h : DistinctKeys (.arr xs)) (hw : w ∈ xs) :
    w.DistinctKeys := by
  induction xs with
  | nil => cases hw
  | cons x xs ih =>
    rcases List.mem_cons.1 hw with rfl | hw
    · exact h.1
    · exact ih h.2 hw

/-- A member that may be missing repeats no key, either. -/
theorem DistinctKeys.getD_get? (h : v.DistinctKeys) (key : String) :
    ((v.get? key).getD .null).DistinctKeys := by
  cases hw : v.get? key with
  | none => trivial
  | some w => exact h.get? hw

/-! ## Members under other keys -/

/-- The members under other keys, in order of key. -/
def others (names : List String) (v : Json) : List Member :=
  sortedMembers (v.members.filter (·.1 ∉ names)) []

/-- The members under other keys are determined by what is looked up under other keys. -/
theorem others_congr (hv : (v.members.map Prod.fst).Nodup) (hw : (w.members.map Prod.fst).Nodup)
    (h : ∀ key ∉ names, v.get? key = w.get? key) : others names v = others names w := by
  have hperm : (v.members.filter (·.1 ∉ names)).Perm (w.members.filter (·.1 ∉ names)) := by
    refine perm_of_lookup (nodup_filter hv _) (nodup_filter hw _) fun key ↦ ?_
    have hfilter := fun ms : List Member ↦ lookup_filter (fun k ↦ decide (k ∉ names)) ms key
    rw [hfilter, hfilter, ← get?_eq_lookup, ← get?_eq_lookup]
    split
    · next hkey => exact h key (of_decide_eq_true hkey)
    · rfl
  have hplaced : ∀ x : Json, (x.members.map Prod.fst).Nodup → (others names x).Perm
      ((x.members.filter (·.1 ∉ names)).map fun m ↦ (m.1, m.2.sorted)) :=
    fun x hx ↦ perm_sortedMembers (nodup_filter hx _)
  have hsorted : ∀ x : Json, ((others names x).map Prod.fst).Pairwise (· < ·) :=
    fun x ↦ (sortedKeys_sorted (.obj (x.members.filter (·.1 ∉ names)))).1
  exact eq_of_perm_of_sorted ((hplaced v hv).trans ((hperm.map _).trans (hplaced w hw).symm))
    (hsorted v) (hsorted w)

/-! ## Putting a member in its place -/

/-- The object with a member in the place of the one with its key; anything that is not an object
counts as an empty one. -/
def put (v : Json) (key : String) (w : Json) : Json :=
  .obj ((key, w) :: v.members.filter (·.1 != key))

theorem put_ne_null (v : Json) (key : String) (w : Json) : v.put key w ≠ .null := nofun

theorem get?_put (v : Json) (key : String) (w : Json) (k : String) :
    (v.put key w).get? k = if k = key then some w else v.get? k := by
  have hfilter := lookup_filter (fun k ↦ k != key) v.members k
  rw [put, get?, lookup_cons_eq_ite, hfilter, ← get?_eq_lookup]
  by_cases hk : k = key
  · rw [if_pos hk, if_pos hk]
  · rw [if_neg hk, if_neg hk, if_pos (bne_iff_ne.2 hk)]

/-- Putting a member in its place repeats no key. -/
theorem DistinctKeys.put (hv : v.DistinctKeys) (hw : w.DistinctKeys) (key : String) :
    (v.put key w).DistinctKeys := by
  have hothers := hv.members.filter (·.1 != key)
  refine ⟨List.nodup_cons.2 ⟨fun hmem ↦ ?_, hothers.1⟩, hw, hothers.2⟩
  obtain ⟨m, hm, hkey⟩ := List.mem_map.1 hmem
  have hne := (List.mem_filter.1 hm).2
  exact bne_iff_ne.1 hne hkey

/-- The members under other keys stay. -/
theorem others_put (hv : v.DistinctKeys) (hw : w.DistinctKeys) (hkey : key ∈ names) :
    (v.put key w).others names = v.others names := by
  refine others_congr (hv.put hw key).members.1 hv.members.1 fun k hk ↦ ?_
  have hne : k ≠ key := fun heq ↦ hk (heq ▸ hkey)
  rw [get?_put, if_neg hne]

end Welfare.Json
