import Welfare.Profile

/-!
# Places in a profile

A place in a profile is reached by steps, into a member of an object or to an item of a list.  A
field writes such steps down as one text: the keys and the indices, with dots between them.  Nothing
is lost on the way as long as no key holds a dot and no index needs more than 64 bits, so every
place that can be written down is found again, with whatever stands there.

The steps of a path are taken one after the other, so a path may be taken apart at any of its dots.

* `Json.Step`, `Json.Leads` — steps, and where they lead.
* `Field.through`, `Field.segments_through` — the field that steps are written down as.
* `Profile.resolve_dotted` — a path in two parts.
* `Profile.every_place_resolves` — every place is found.
-/

set_option autoImplicit false

namespace Welfare

/-! ## Steps -/

namespace Json

/-- A step into a value: to a member of an object, or to an item of a list. -/
inductive Step where
  | member (key : String)
  | item (index : Nat)

/-- How a step is written: a key as it is, an index in decimal. -/
def Step.segment : Step → String
  | .member key => key
  | .item index => index.repr

/-- Steps that can be written down between dots: a key that holds none, an index of 64 bits. -/
def Step.Writable : Step → Prop
  | .member key => '.' ∉ key.toList
  | .item index => index < 0x10000000000000000

/-- Steps lead from one value to another. -/
inductive Leads : Json → List Step → Json → Prop
  | here (v : Json) : Leads v [] v
  | member {members : List Member} {key : String} {v w : Json} {steps : List Step} :
      members.lookup key = some v → Leads v steps w →
        Leads (.obj members) (.member key :: steps) w
  | item {items : List Json} {index : Nat} {v w : Json} {steps : List Step} :
      items[index]? = some v → Leads v steps w → Leads (.arr items) (.item index :: steps) w

theorem Step.dot_notMem_segment {step : Step} (h : step.Writable) :
    '.' ∉ step.segment.toList := by
  cases step with
  | member key => exact h
  | item index =>
    rw [segment, Nat.toList_repr]
    exact fun hdot ↦ absurd (Nat.isDigit_of_mem_toDigits (by decide) (by decide) hdot) (by decide)

end Json

open Json (Step Leads)

/-! ## Paths in parts -/

namespace Field

/-- The field that steps are written down as. -/
def through (steps : List Step) : Field := ⟨".".intercalate (steps.map Step.segment)⟩

/-- The segments of a field are the steps it is made of. -/
theorem segments_through {steps : List Step} (hne : steps ≠ [])
    (h : ∀ step ∈ steps, step.Writable) : (through steps).segments = steps.map Step.segment := by
  have hparts : ∀ part ∈ (steps.map Step.segment).map String.toList, '.' ∉ part := by
    rw [List.map_map, List.forall_mem_map]
    exact fun step hstep ↦ Step.dot_notMem_segment (h step hstep)
  have hsplit := Text.split_intercalate (by simpa using hne) hparts
  rw [segments, through, String.toList_intercalate]
  show (Text.split '.' (['.'].intercalate _)).map String.ofList = _
  rw [hsplit, List.map_map]
  simp

theorem segments_dotted (a b : String) :
    segments ⟨a ++ "." ++ b⟩ = segments ⟨a⟩ ++ segments ⟨b⟩ := by
  have hpath : (a ++ "." ++ b).toList = a.toList ++ '.' :: b.toList := by simp
  rw [segments, hpath, Text.split_append_cons, List.map_append]
  rfl

theorem isBare_dotted (a b : String) : isBare ⟨a ++ "." ++ b⟩ = false := by
  simp [isBare]

end Field

namespace Profile

theorem traverse_cons (v : Json) (segment : String) (segments : List String) :
    traverse v (segment :: segments) = (step v segment).bind (traverse · segments) := rfl

/-- The segments of a path are taken one after the other. -/
theorem traverse_append (v : Json) (front back : List String) :
    traverse v (front ++ back) = (traverse v front).bind (traverse · back) :=
  List.foldlM_append

/-- What a path leads to is what its field resolves to. -/
theorem resolve_of_traverse {p : Profile} {f : Field} {v : Json}
    (h : traverse p.record f.segments = some v) : p.resolve f = some v := by
  rw [resolve, h]

/-- A path with a dot in it resolves to what it leads to, and no category is looked at. -/
theorem resolve_dotted (p : Profile) (a b : String) :
    p.resolve ⟨a ++ "." ++ b⟩ =
      (traverse p.record (Field.segments ⟨a⟩)).bind (traverse · (Field.segments ⟨b⟩)) := by
  rw [← traverse_append, ← Field.segments_dotted, resolve, Field.isBare_dotted]
  cases traverse p.record (Field.segments ⟨a ++ "." ++ b⟩) <;> rfl

/-! ## Places -/

/-- Segments are followed as the steps that they write down. -/
theorem traverse_of_leads {v w : Json} {steps : List Step} (h : Leads v steps w)
    (hsteps : ∀ step ∈ steps, step.Writable) :
    traverse v (steps.map Step.segment) = some w := by
  induction h with
  | here v => rfl
  | @member members key v w steps hlookup _ ih =>
    rw [List.forall_mem_cons] at hsteps
    have hstep : step (.obj members) key = some v := hlookup
    rw [List.map_cons, Step.segment, traverse_cons, hstep]
    exact ih hsteps.2
  | @item items index v w steps hitem _ ih =>
    rw [List.forall_mem_cons] at hsteps
    -- the digits of an index are read back, since they are few enough for 64 bits
    have hindex : index? index.repr = some index := Text.numeral?_repr hsteps.1
    have hstep : step (.arr items) index.repr = some v := by rw [step, hindex]; exact hitem
    rw [List.map_cons, Step.segment, traverse_cons, hstep]
    exact ih hsteps.2

/-- **Every place that can be written down is found.**  Where steps lead to a value, be it `null`,
the field that writes them down resolves to it.  And a path may be taken apart at any dot: it
resolves to what its second part leads to from where its first part leads, or to nothing, whatever
the categories hold. -/
theorem every_place_resolves :
    (∀ (p : Profile) (steps : List Step) (w : Json), steps ≠ [] →
      (∀ step ∈ steps, step.Writable) → Leads p.record steps w →
      p.resolve (.through steps) = some w) ∧
    ∀ (p : Profile) (a b : String), p.resolve ⟨a ++ "." ++ b⟩ =
      (traverse p.record (Field.segments ⟨a⟩)).bind (traverse · (Field.segments ⟨b⟩)) := by
  refine ⟨fun p steps w hne hsteps hleads ↦ resolve_of_traverse ?_, resolve_dotted⟩
  rw [Field.segments_through hne hsteps]
  exact traverse_of_leads hleads hsteps

/-- A list under a key that is empty, and in its second place an object with a key that looks like
an index: the same numeral is an index first and then a key, and what it leads to is `null`. -/
theorem null_under_index_and_numeral :
    let p : Profile := ⟨.obj [("crops", .obj [("", .arr [
      .str "Wheat", .obj [("1", .null)]])])]⟩
    let steps : List Step := [.member "crops", .member "", .item 1, .member "1"]
    Field.through steps = ⟨"crops..1.1"⟩ ∧ Leads p.record steps .null ∧
      p.resolve ⟨"crops..1.1"⟩ = some .null := by
  intro p steps
  have hpath : Field.through steps = ⟨"crops..1.1"⟩ := by decide +kernel
  have hwritable : ∀ step ∈ steps, step.Writable := by
    simp [steps, Step.Writable]
  have hleads : Leads p.record steps .null :=
    .member rfl (.member rfl (.item rfl (.member rfl (.here _))))
  have hresolve := every_place_resolves.1 p steps .null (by simp [steps]) hwritable hleads
  exact ⟨hpath, hleads, hpath ▸ hresolve⟩

end Profile

end Welfare
