import Welfare.Proofs.Json.AnyOrder

/-!
# Texts of values

A text spells a value when it is one document, without a fault, of that value in some order of
members.  Whatever is decoded from the value is decoded from such a text.

* `decodeText_eq_ok_iff` — what is read from a text at all.
* `Spells` — a text of a value.
* `Spells.decodeText_eq_ok_iff`, `Spells.decodeFront_eq_ok_iff`, `Spells.parse` — what is read from
  it.
* `Json.without` — a value without one of its members.
* `isOrderingOf_without` — leaving a member out before or after reading comes to the same.
-/

set_option autoImplicit false

namespace Welfare.Json

open Document (ofJson)

variable {α : Type} {decode : Document → Decoded α} {a : α} {text : String} {v : Json}

/-- A text is decoded when its document is and nothing but blanks follows. -/
theorem decodeText_eq_ok_iff : decodeText decode text = .ok a ↔
    decode (Document.ofText text).1 = .ok a ∧ Document.ended (Document.ofText text).2 = .ok () := by
  show (do
    let a ← decode (Document.ofText text).1
    Document.sound (Document.ended (Document.ofText text).2)
    return a) = Except.ok a ↔ _
  rw [← Document.sound_eq_ok (r := Document.ended _), Decoded.bind_eq_ok]
  constructor
  · rintro ⟨b, hb, h⟩
    obtain ⟨_, hended, h⟩ := Decoded.bind_eq_ok.1 h
    cases h
    exact ⟨hb, hended⟩
  · rintro ⟨ha, hended⟩
    exact ⟨a, ha, Decoded.bind_eq_ok.2 ⟨(), hended, rfl⟩⟩

/-- The text is one faultless document of `v`, in some order of members. -/
structure Spells (text : String) (v : Json) : Prop where
  document : ∃ w : Json, w.IsOrderingOf v ∧ (Document.ofText text).1 = ofJson w
  ended : Document.ended (Document.ofText text).2 = .ok ()

namespace Spells

/-- A text that is a document of the value and no more spells it. -/
theorem of_ofText (hv : v.DistinctKeys) (h : Document.ofText text = (ofJson v, some [])) :
    Spells text v :=
  ⟨⟨v, .refl hv, congrArg Prod.fst h⟩, congrArg (Document.ended ·.2) h⟩

/-- Exactly what the value holds is decoded from the front of the text. -/
theorem decodeFront_eq_ok_iff (h : Spells text v) (hfree : OrderFree decode) (hv : v.DistinctKeys) :
    Json.decodeFront decode text = .ok a ↔ decode (ofJson v) = .ok a := by
  obtain ⟨w, hw, hdocument⟩ := h.document
  rw [Json.decodeFront, hdocument]
  exact hfree.eq_ok_iff hw hv

/-- Exactly what the value holds is decoded from the text. -/
theorem decodeText_eq_ok_iff (h : Spells text v) (hfree : OrderFree decode) (hv : v.DistinctKeys) :
    Json.decodeText decode text = .ok a ↔ decode (ofJson v) = .ok a := by
  rw [Json.decodeText_eq_ok_iff, and_iff_left h.ended]
  exact h.decodeFront_eq_ok_iff hfree hv

theorem decodeFront (h : Spells text v) (hfree : OrderFree decode) (hv : v.DistinctKeys)
    (ha : decode (ofJson v) = .ok a) : Json.decodeFront decode text = .ok a :=
  (h.decodeFront_eq_ok_iff hfree hv).2 ha

theorem decodeText (h : Spells text v) (hfree : OrderFree decode) (hv : v.DistinctKeys)
    (ha : decode (ofJson v) = .ok a) : Json.decodeText decode text = .ok a :=
  (h.decodeText_eq_ok_iff hfree hv).2 ha

/-- The text parses to the value, whose members then stand in order of key. -/
theorem parse (h : Spells text v) (hv : v.DistinctKeys) : Json.parse text = .ok v.sorted :=
  h.decodeText orderFree_asJson hv (Document.asJson_ofJson v)

end Spells

/-! ## Leaving out a member -/

/-- An object without the member under `key`. -/
def without (key : String) : Json → Json
  | .obj ms => .obj (ms.filter (·.1 != key))
  | v => v

/-- Sorted members are determined by the members they are made of. -/
theorem eq_of_perm_of_sorted {ms ns : List Member} (h : ms.Perm ns)
    (hms : (ms.map Prod.fst).Pairwise (· < ·)) (hns : (ns.map Prod.fst).Pairwise (· < ·)) :
    ms = ns := by
  refine h.eq_of_pairwise (fun m n _ _ hmn hnm ↦ ?_) (List.pairwise_map.1 hms)
    (List.pairwise_map.1 hns)
  exact absurd hmn (lt_asymm hnm)

theorem sorted_without (key : String) (hv : v.DistinctKeys) :
    (v.without key).sorted = v.sorted.without key := by
  cases v with
  | obj ms =>
    have hfilter : (sortedMembers (ms.filter (·.1 != key)) []).Perm
        ((sortedMembers ms []).filter (·.1 != key)) := by
      have hsome : (sortedMembers (ms.filter (·.1 != key)) []).Perm
          ((ms.filter (·.1 != key)).map fun m ↦ (m.1, m.2.sorted)) :=
        perm_sortedMembers (hv.filter _).1
      have hall : (sortedMembers ms []).Perm (ms.map fun m ↦ (m.1, m.2.sorted)) :=
        perm_sortedMembers hv.1
      have hboth := (hall.filter (·.1 != key)).symm
      rw [List.filter_map] at hboth
      exact hsome.trans hboth
    have hsorted := (sortedKeys_sorted (.obj ms)).1
    refine congrArg Json.obj (eq_of_perm_of_sorted hfilter ?_ ?_)
    · exact (sortedKeys_sorted (.obj (ms.filter (·.1 != key)))).1
    · exact hsorted.sublist (List.filter_sublist.map Prod.fst)
  | _ => rfl

/-- Leaving a member out after reading gives the value without it. -/
theorem isOrderingOf_without (key : String) (hv : v.DistinctKeys) :
    (v.sorted.without key).IsOrderingOf (v.without key) := by
  rw [← sorted_without key hv]
  exact isOrderingOf_sorted _

end Welfare.Json
