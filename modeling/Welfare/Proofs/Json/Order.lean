import Mathlib.Data.String.Basic
import Welfare.Json.Document
import Welfare.Proofs.Keyed

/-!
# The order of members

The members of an object have no order of their own: a value that is read holds them in order of
key, and a record is written in the order of its fields.  This file is about passing from one order
to another.

* `Json.sorted` — the value with the members of every object in order of key.  It is what reading
  the value's document gives (`toJson_ofJson`).
* `Json.DistinctKeys` — no object of the value repeats a key.
* `Json.IsOrderingOf` — the same value, up to the order of members.
* `sortedKeys_of_toJson` — whatever is read is sorted; `SortedKeys.sorted_eq` — sorting such a value
  again changes nothing.
* `perm_sortedMembers` — sorting distinct members only permutes them.
-/

set_option autoImplicit false

namespace Welfare.Json

/-! ## Inserting a member -/

variable {key : String} {value : Json} {ms : List Member}

theorem mem_insertMember {m : Member} (h : m ∈ insertMember key value ms) :
    m = (key, value) ∨ m ∈ ms := by
  induction ms with
  | nil => exact Or.inl (List.mem_singleton.1 h)
  | cons n ms ih =>
    rw [insertMember] at h
    split at h
    · exact List.mem_cons.1 h
    · split at h
      · exact (List.mem_cons.1 h).imp_right (List.mem_cons_of_mem n)
      · rcases List.mem_cons.1 h with rfl | h
        · exact Or.inr List.mem_cons_self
        · exact (ih h).imp_right (List.mem_cons_of_mem n)

/-- What is found after a member has been put in its place: that member, or what was found
before. -/
theorem lookup_insertMember (key : String) (value : Json) (ms : List Member) (k : String) :
    (insertMember key value ms).lookup k = if k = key then some value else ms.lookup k := by
  induction ms with
  | nil => exact lookup_cons_eq_ite (key, value) [] k
  | cons m ms ih =>
    rw [insertMember, lookup_cons_eq_ite m]
    split
    · rw [lookup_cons_eq_ite, lookup_cons_eq_ite]
    · split
      · next hkey =>
        rw [lookup_cons_eq_ite, hkey]
        split <;> rfl
      · next hkey =>
        rw [lookup_cons_eq_ite, ih]
        by_cases hm : k = m.1
        · have hne : k ≠ key := fun heq ↦ hkey (heq ▸ hm)
          rw [if_pos hm, if_neg hne, if_pos hm]
        · rw [if_neg hm, if_neg hm]

/-- A member that comes after all others is put at the end. -/
theorem insertMember_of_lt (h : ∀ m ∈ ms, m.1 < key) :
    insertMember key value ms = ms ++ [(key, value)] := by
  induction ms with
  | nil => rfl
  | cons n ms ih =>
    have hn : n.1 < key := h n List.mem_cons_self
    rw [insertMember, if_neg (lt_asymm hn), if_neg (ne_of_gt hn),
      ih fun m hm ↦ h m (List.mem_cons_of_mem n hm)]
    rfl

/-- Inserting a new member only adds it. -/
theorem perm_insertMember (h : key ∉ ms.map Prod.fst) :
    (insertMember key value ms).Perm ((key, value) :: ms) := by
  induction ms with
  | nil => exact List.Perm.refl _
  | cons n ms ih =>
    rw [List.map_cons, List.mem_cons, not_or] at h
    rw [insertMember]
    split
    · exact List.Perm.refl _
    · rw [if_neg h.1]
      exact ((ih h.2).cons n).trans (List.Perm.swap _ _ _)

theorem pairwise_insertMember (h : (ms.map Prod.fst).Pairwise (· < ·)) :
    ((insertMember key value ms).map Prod.fst).Pairwise (· < ·) := by
  induction ms with
  | nil => exact List.pairwise_singleton _ _
  | cons n ms ih =>
    have hcons := List.pairwise_cons.1 h
    rw [insertMember]
    split
    · next hlt =>
      refine List.pairwise_cons.2 ⟨fun k hk ↦ ?_, h⟩
      rcases List.mem_cons.1 hk with rfl | hk
      · exact hlt
      · exact lt_trans hlt (hcons.1 k hk)
    · next hle =>
      split
      · next heq => exact heq ▸ h
      · next hne =>
        refine List.pairwise_cons.2 ⟨fun k hk ↦ ?_, ih hcons.2⟩
        obtain ⟨m, hm, rfl⟩ := List.mem_map.1 hk
        rcases mem_insertMember hm with rfl | hm
        · exact lt_of_le_of_ne (not_lt.1 hle) (Ne.symm hne)
        · exact hcons.1 m.1 (List.mem_map_of_mem hm)

/-- Members with different keys may be inserted in either order. -/
theorem insertMember_comm {k l : String} (h : k ≠ l) (v w : Json) (ms : List Member) :
    insertMember k v (insertMember l w ms) = insertMember l w (insertMember k v ms) := by
  wlog hlt : k < l generalizing k l v w
  · exact (this h.symm w v (lt_of_le_of_ne (not_lt.1 hlt) h.symm)).symm
  induction ms with
  | nil => simp [insertMember, hlt, lt_asymm hlt, h.symm]
  | cons n ms ih =>
    obtain ⟨i, u⟩ := n
    by_cases hki : k < i
    · by_cases hli : l < i
      · simp [insertMember, hki, hli, hlt, lt_asymm hlt, h.symm]
      · by_cases hli' : l = i
        · subst hli'; simp [insertMember, hki, lt_asymm hlt, h.symm]
        · simp [insertMember, hki, hli, hli', lt_asymm hlt, h.symm]
    · have hli : ¬ l < i := fun hli ↦ hki (lt_trans hlt hli)
      by_cases hki' : k = i
      · subst hki'; simp [insertMember, lt_asymm hlt, h.symm]
      · by_cases hli' : l = i
        · subst hli'; exact absurd hlt hki
        · simp [insertMember, hki, hli, hki', hli', ih]

theorem sortedMembers_insertMember (hvalue : SortedKeys value) (h : SortedMembers ms) :
    SortedMembers (insertMember key value ms) := by
  induction ms with
  | nil => exact ⟨hvalue, trivial⟩
  | cons n ms ih =>
    rw [insertMember]
    split
    · exact ⟨hvalue, h⟩
    · split
      · exact ⟨hvalue, h.2⟩
      · exact ⟨h.1, ih h.2⟩

theorem sortedKeys_nil : SortedKeys (.obj []) :=
  ⟨List.Pairwise.nil, trivial⟩

/-- The order invariant of an object survives an insertion. -/
theorem SortedKeys.insertMember (h : SortedKeys (.obj ms)) (hvalue : SortedKeys value) :
    SortedKeys (.obj (insertMember key value ms)) :=
  ⟨pairwise_insertMember h.1, sortedMembers_insertMember hvalue h.2⟩

/-! ## Sorting -/

mutual

/-- The value with the members of every object in order of key. -/
def sorted : Json → Json
  | .null => .null
  | .bool b => .bool b
  | .num n => .num n
  | .str s => .str s
  | .arr xs => .arr (sortedItems xs)
  | .obj ms => .obj (sortedMembers ms [])

/-- Every item of a list, sorted. -/
def sortedItems : List Json → List Json
  | [] => []
  | x :: xs => sorted x :: sortedItems xs

/-- Puts members with sorted values, first to last, in their places among those that are there. -/
def sortedMembers : List Member → List Member → List Member
  | [], placed => placed
  | (k, v) :: ms, placed => sortedMembers ms (insertMember k (sorted v) placed)

end

mutual

/-- The value of a faultless document is the sorted one. -/
theorem toJson_ofJson : (v : Json) → (Document.ofJson v).toJson = .ok v.sorted
  | .null | .bool _ | .num _ | .str _ => rfl
  | .arr xs => by rw [Document.ofJson, Document.toJson, toJsonItems_ofJsonItems xs]; rfl
  | .obj ms => by rw [Document.ofJson, Document.toJson, toJsonMembers_ofJsonMembers ms []]; rfl

theorem toJsonItems_ofJsonItems :
    (xs : List Json) → Document.toJsonItems (Document.ofJsonItems xs) = .ok (sortedItems xs)
  | [] => rfl
  | x :: xs => by
    rw [Document.ofJsonItems, Document.toJsonItems, toJson_ofJson x, toJsonItems_ofJsonItems xs]
    rfl

theorem toJsonMembers_ofJsonMembers : (ms placed : List Member) →
    Document.toJsonMembers (Document.ofJsonMembers ms) placed = .ok (sortedMembers ms placed)
  | [], _ => rfl
  | (k, v) :: ms, placed => by
    rw [Document.ofJsonMembers, Document.toJsonMembers, toJson_ofJson v]
    exact toJsonMembers_ofJsonMembers ms _

end

mutual

/-- Whatever is read from a document is sorted. -/
theorem sortedKeys_of_toJson : {d : Document} → {v : Json} → d.toJson = .ok v → v.SortedKeys
  | .null, _, h | .bool _, _, h => by cases h; trivial
  | .num n, _, h => by
    cases n with
    | ok n => cases h; trivial
    | error f => cases h
  | .str s, _, h => by
    cases s with
    | ok s => cases h; trivial
    | error f => cases h
  | .arr items closing, _, h => by
    rw [Document.toJson] at h
    cases hread : Document.toJsonItems items with
    | error f => rw [hread] at h; cases h
    | ok xs =>
      rw [hread] at h
      cases closing with
      | some f => cases h
      | none => cases h; exact sortedItems_of_toJsonItems hread
  | .obj members closing, _, h => by
    rw [Document.toJson] at h
    cases hread : Document.toJsonMembers members [] with
    | error f => rw [hread] at h; cases h
    | ok ms =>
      rw [hread] at h
      cases closing with
      | some f => cases h
      | none => cases h; exact sortedKeys_of_toJsonMembers sortedKeys_nil hread
  | .deep _, _, h | .fault _, _, h => by cases h

theorem sortedItems_of_toJsonItems : {ds : List Document} → {xs : List Json} →
    Document.toJsonItems ds = .ok xs → SortedItems xs
  | [], _, h => by cases h; trivial
  | d :: ds, _, h => by
    rw [Document.toJsonItems] at h
    cases hitem : d.toJson with
    | error f => rw [hitem] at h; cases h
    | ok v =>
      cases hitems : Document.toJsonItems ds with
      | error f => rw [hitem, hitems] at h; cases h
      | ok vs =>
        rw [hitem, hitems] at h
        cases h
        exact ⟨sortedKeys_of_toJson hitem, sortedItems_of_toJsonItems hitems⟩

theorem sortedKeys_of_toJsonMembers : {members : List Document.Member} → {placed ms : List Member} →
    SortedKeys (.obj placed) → Document.toJsonMembers members placed = .ok ms → SortedKeys (.obj ms)
  | [], _, _, hplaced, h => by cases h; exact hplaced
  | (key, d) :: members, placed, _, hplaced, h => by
    rw [Document.toJsonMembers] at h
    cases key with
    | error f => cases h
    | ok k =>
      cases hvalue : d.toJson with
      | error f => rw [hvalue] at h; cases h
      | ok v =>
        rw [hvalue] at h
        exact sortedKeys_of_toJsonMembers (hplaced.insertMember (sortedKeys_of_toJson hvalue)) h

end

mutual

/-- A faultless document can be passed over. -/
theorem skim_ofJson : (v : Json) → (Document.ofJson v).skim = .ok ()
  | .null | .bool _ | .num _ | .str _ => rfl
  | .arr xs => by rw [Document.ofJson, Document.skim, skimItems_ofJsonItems xs]; rfl
  | .obj ms => by rw [Document.ofJson, Document.skim, skimMembers_ofJsonMembers ms]; rfl

theorem skimItems_ofJsonItems :
    (xs : List Json) → Document.skimItems (Document.ofJsonItems xs) = .ok ()
  | [] => rfl
  | x :: xs => by
    rw [Document.ofJsonItems, Document.skimItems, skim_ofJson x]
    exact skimItems_ofJsonItems xs

theorem skimMembers_ofJsonMembers :
    (ms : List Member) → Document.skimMembers (Document.ofJsonMembers ms) = .ok ()
  | [] => rfl
  | (_, v) :: ms => by
    rw [Document.ofJsonMembers, Document.skimMembers, skim_ofJson v]
    exact skimMembers_ofJsonMembers ms

end

theorem sortedKeys_sorted (v : Json) : v.sorted.SortedKeys :=
  sortedKeys_of_toJson (toJson_ofJson v)

mutual

/-- Sorting changes nothing about a value that is sorted. -/
theorem SortedKeys.sorted_eq : {v : Json} → v.SortedKeys → v.sorted = v
  | .null, _ | .bool _, _ | .num _, _ | .str _, _ => rfl
  | .arr xs, h => congrArg Json.arr (sortedItems_eq xs h)
  | .obj ms, h => congrArg Json.obj (sortedMembers_eq [] ms h.1 h.2)

theorem sortedItems_eq : (xs : List Json) → SortedItems xs → sortedItems xs = xs
  | [], _ => rfl
  | _ :: xs, h => congrArg₂ List.cons h.1.sorted_eq (sortedItems_eq xs h.2)

theorem sortedMembers_eq : (placed ms : List Member) →
    ((placed ++ ms).map Prod.fst).Pairwise (· < ·) → SortedMembers ms →
    sortedMembers ms placed = placed ++ ms
  | placed, [], _, _ => (List.append_nil placed).symm
  | placed, (k, v) :: ms, hkeys, h => by
    have hlast : ∀ m ∈ placed, m.1 < k := by
      rw [List.map_append, List.pairwise_append] at hkeys
      exact fun m hm ↦ hkeys.2.2 m.1 (List.mem_map_of_mem hm) k List.mem_cons_self
    rw [List.append_cons] at hkeys ⊢
    rw [sortedMembers, h.1.sorted_eq, insertMember_of_lt hlast]
    exact sortedMembers_eq _ ms hkeys h.2

end

theorem sorted_sorted (v : Json) : v.sorted.sorted = v.sorted :=
  (sortedKeys_sorted v).sorted_eq

mutual

/-- Whether a value is sorted can be computed. -/
instance decidableSortedKeys : (v : Json) → Decidable v.SortedKeys
  | .null | .bool _ | .num _ | .str _ => isTrue trivial
  | .arr xs => decidableSortedItems xs
  | .obj ms => @instDecidableAnd _ _ inferInstance (decidableSortedMembers ms)

instance decidableSortedItems : (xs : List Json) → Decidable (SortedItems xs)
  | [] => isTrue trivial
  | x :: xs => @instDecidableAnd _ _ (decidableSortedKeys x) (decidableSortedItems xs)

instance decidableSortedMembers : (ms : List Member) → Decidable (SortedMembers ms)
  | [] => isTrue trivial
  | (_, v) :: ms => @instDecidableAnd _ _ (decidableSortedKeys v) (decidableSortedMembers ms)

end

/-! ## Distinct keys -/

mutual

/-- No object of the value repeats a key. -/
def DistinctKeys : Json → Prop
  | .arr xs => DistinctItems xs
  | .obj ms => (ms.map Prod.fst).Nodup ∧ DistinctMembers ms
  | _ => True

/-- Every item has distinct keys. -/
def DistinctItems : List Json → Prop
  | [] => True
  | x :: xs => DistinctKeys x ∧ DistinctItems xs

/-- The value of every member has distinct keys. -/
def DistinctMembers : List Member → Prop
  | [] => True
  | (_, v) :: ms => DistinctKeys v ∧ DistinctMembers ms

end

mutual

theorem SortedKeys.distinctKeys : {v : Json} → v.SortedKeys → v.DistinctKeys
  | .null, _ | .bool _, _ | .num _, _ | .str _, _ => trivial
  | .arr xs, h => distinctItems_of_sorted xs h
  | .obj ms, h => ⟨h.1.imp ne_of_lt, distinctMembers_of_sorted ms h.2⟩

theorem distinctItems_of_sorted : (xs : List Json) → SortedItems xs → DistinctItems xs
  | [], _ => trivial
  | _ :: xs, h => ⟨h.1.distinctKeys, distinctItems_of_sorted xs h.2⟩

theorem distinctMembers_of_sorted : (ms : List Member) → SortedMembers ms → DistinctMembers ms
  | [], _ => trivial
  | _ :: ms, h => ⟨h.1.distinctKeys, distinctMembers_of_sorted ms h.2⟩

end

theorem distinctKeys_sorted (v : Json) : v.sorted.DistinctKeys :=
  (sortedKeys_sorted v).distinctKeys

theorem distinctKeys_ofFloat (x : Float) : (ofFloat x).DistinctKeys := by
  unfold ofFloat
  split <;> trivial

variable {α : Type} {write : α → Json}

theorem distinctItems_map {xs : List α} (h : ∀ a ∈ xs, (write a).DistinctKeys) :
    DistinctItems (xs.map write) := by
  induction xs with
  | nil => trivial
  | cons x xs ih =>
    exact ⟨h x List.mem_cons_self, ih fun a ha ↦ h a (List.mem_cons_of_mem x ha)⟩

theorem distinctMembers_iff : DistinctMembers ms ↔ ∀ m ∈ ms, m.2.DistinctKeys := by
  induction ms with
  | nil => exact iff_of_true trivial nofun
  | cons m ms ih =>
    rw [List.forall_mem_cons, ← ih]
    rfl

theorem distinctMembers_append {ns : List Member} (hms : DistinctMembers ms)
    (hns : DistinctMembers ns) : DistinctMembers (ms ++ ns) := by
  rw [distinctMembers_iff] at hms hns ⊢
  exact List.forall_mem_append.2 ⟨hms, hns⟩

/-- Leaving out members keeps the keys distinct. -/
theorem DistinctKeys.filter (h : DistinctKeys (.obj ms)) (p : Member → Bool) :
    DistinctKeys (.obj (ms.filter p)) := by
  refine ⟨(List.filter_sublist.map Prod.fst).nodup h.1, distinctMembers_iff.2 fun m hm ↦ ?_⟩
  exact distinctMembers_iff.1 h.2 m (List.mem_of_mem_filter hm)

theorem distinctMembers_optionalMember {x : Option α}
    (h : ∀ a, x = some a → (write a).DistinctKeys) :
    DistinctMembers (optionalMember key write x) := by
  cases x with
  | none => trivial
  | some a => exact ⟨h a rfl, trivial⟩

theorem SortedKeys.distinctMembers (h : SortedKeys (.obj ms)) : DistinctMembers ms :=
  h.distinctKeys.2

/-- A member that may be left out takes up at most its own key. -/
theorem sublist_optionalMember (key : String) (write : α → Json) (x : Option α) :
    ((optionalMember key write x).map Prod.fst).Sublist [key] := by
  cases x with
  | none => exact List.nil_sublist _
  | some a => exact List.Sublist.refl _

/-- Sorting distinct members only permutes them. -/
theorem perm_sortedMembers {placed : List Member} (h : ((placed ++ ms).map Prod.fst).Nodup) :
    (sortedMembers ms placed).Perm (placed ++ ms.map fun m ↦ (m.1, m.2.sorted)) := by
  induction ms generalizing placed with
  | nil => rw [sortedMembers, List.map_nil, List.append_nil]
  | cons m ms ih =>
    obtain ⟨k, v⟩ := m
    have hmiddle : (((k, v) :: (placed ++ ms)).map Prod.fst).Nodup :=
      (List.perm_middle.map Prod.fst).nodup_iff.1 h
    rw [List.map_cons, List.nodup_cons, List.map_append, List.mem_append, not_or] at hmiddle
    have hinsert : (insertMember k v.sorted placed).Perm ((k, v.sorted) :: placed) :=
      perm_insertMember hmiddle.1.1
    have hnext : ((insertMember k v.sorted placed ++ ms).map Prod.fst).Nodup := by
      refine ((hinsert.append_right ms).map Prod.fst).nodup_iff.2 ?_
      rw [List.cons_append, List.map_cons, List.nodup_cons, List.map_append, List.mem_append,
        not_or]
      exact hmiddle
    rw [sortedMembers, List.map_cons]
    exact (ih hnext).trans ((hinsert.append_right _).trans List.perm_middle.symm)

theorem lookup_eq_none_of_notMem (h : key ∉ ms.map Prod.fst) : ms.lookup key = none := by
  refine List.lookup_eq_none_iff.2 fun m hm ↦ ?_
  have hne : key ≠ m.1 := fun heq ↦ h (heq ▸ List.mem_map_of_mem hm)
  exact bne_iff_ne.2 hne

theorem sortedKeys_of_lookup (h : SortedMembers ms) (hlookup : ms.lookup key = some value) :
    SortedKeys value := by
  induction ms with
  | nil => cases hlookup
  | cons m ms ih =>
    obtain ⟨k, v⟩ := m
    rw [lookup_cons_eq_ite] at hlookup
    split at hlookup
    · cases hlookup
      exact h.1
    · exact ih h.2 hlookup

/-- The members of a sorted object are sorted. -/
theorem SortedKeys.get? {v w : Json} (h : v.SortedKeys) (hw : v.get? key = some w) :
    w.SortedKeys := by
  cases v with
  | obj ms => exact sortedKeys_of_lookup h.2 hw
  | _ => cases hw

/-- Of distinct members, sorting changes the values only. -/
theorem lookup_sortedMembers {placed : List Member} (h : (ms.map Prod.fst).Nodup) (k : String) :
    (sortedMembers ms placed).lookup k =
      ((ms.lookup k).map sorted <|> placed.lookup k) := by
  induction ms generalizing placed with
  | nil => rfl
  | cons m ms ih =>
    obtain ⟨l, v⟩ := m
    rw [List.map_cons, List.nodup_cons] at h
    rw [sortedMembers, ih h.2, lookup_insertMember, lookup_cons_eq_ite]
    by_cases hk : k = l
    · rw [hk, lookup_eq_none_of_notMem h.1, if_pos rfl, if_pos rfl]
      rfl
    · rw [if_neg hk, if_neg hk]

theorem get?_sorted {v : Json} (h : v.DistinctKeys) (k : String) :
    v.sorted.get? k = (v.get? k).map sorted := by
  cases v with
  | obj ms =>
    rw [sorted, get?, get?, lookup_sortedMembers h.1]
    cases ms.lookup k with
    | none => rfl
    | some v => rfl
  | _ => rfl

/-- The same value, with the members of its objects in some order. -/
structure IsOrderingOf (w v : Json) : Prop where
  distinct : w.DistinctKeys
  sorted_eq : w.sorted = v.sorted

theorem IsOrderingOf.refl {v : Json} (h : v.DistinctKeys) : v.IsOrderingOf v := ⟨h, rfl⟩

theorem isOrderingOf_sorted (v : Json) : v.sorted.IsOrderingOf v :=
  ⟨distinctKeys_sorted v, sorted_sorted v⟩

end Welfare.Json
